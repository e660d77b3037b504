import OpsConsole.Proofs.Backend.Endpoint
import OpsConsole.Proofs.Url.PathText

/-!
# Addresses that stay on the backend

Whatever identifiers an endpoint is built from, its address begins as that of the backend does, with
the same scheme, name, password, host and port, and goes on with a path from which nothing leads to
a query, a fragment or another host. The feed has the same place on the same port, and is encrypted
exactly when the backend is.
-/

namespace OpsConsole

open Text

namespace Url

/-- The port that a URL leads to, given or usual. -/
def port? (u : Url) : Option Nat := (u.authority.bind (·.port)).or (usualPort? u.scheme)

/-- How the text of a URL with an authority begins: scheme, name and password, host and port. -/
def site (scheme : String) (a : Authority) : List Char :=
  scheme.toList ++ "://".toList ++ a.userinfo ++ a.host.chars ++ a.portChars

theorem chars_of_authority {u : Url} {a : Authority} (ha : u.authority = some a)
    (hsetOff : u.setOff = false) :
    u.chars = site u.scheme a ++ u.path.chars ++ marked '?' u.query ++ marked '#' u.fragment := by
  have horigin : u.origin = site u.scheme a := by
    simp [origin, ha, site, Authority.chars]
  rw [chars, horigin, hsetOff]
  simp

end Url

namespace Backend

open Url

variable {text : String} {base : Url} {a : Authority}

theorem exists_of_parse (h : Backend.parse text = .ok base) :
    (base.scheme = "http" ∨ base.scheme = "https") ∧
      ∃ a segments, base.authority = some a ∧ base.path = .rooted segments ∧
        base.setOff = false := by
  rw [Backend.parse] at h
  cases hparse : Url.parse (trim text) with
  | error cause =>
    rw [hparse] at h
    cases h
  | ok u =>
    rw [hparse] at h
    dsimp only at h
    split at h
    · next hscheme =>
      cases h
      exact ⟨hscheme, Url.exists_of_parse hparse hscheme⟩
    · cases h

theorem isSpecial_of_web (hscheme : base.scheme = "http" ∨ base.scheme = "https") :
    base.isSpecial = true := by
  rcases hscheme with hs | hs <;> (rw [isSpecial, hs]; rfl)

theorem isPathText_endpointSegments (ids : List String) :
    IsPathText (UrlPath.rooted (endpointSegments true ids)).chars := by
  have hapi : ∀ s ∈ apiSegments, s.toList.all isPathChar = true := by decide
  have hsegment (id : String) : IsPathText (String.ofList (segmentText true id)).toList := by
    rw [String.toList_ofList]
    exact isPathText_percentEncode _
  have hsegments : ∀ s ∈ endpointSegments true ids, IsPathText s.toList :=
    forall_mem_endpointSegments (fun s hs => .of_chars (List.all_eq_true.1 (hapi s hs)))
      .nil hsegment ids
  exact .flatMap fun s hs => .plain (by decide) (hsegments s hs)

theorem head?_endpointSegments (special : Bool) (ids : List String) :
    (UrlPath.rooted (endpointSegments special ids)).chars.head? = some '/' := by
  obtain ⟨second, rest, hids⟩ := exists_endpointSegments_eq special ids
  rw [hids]
  rfl

theorem chars_feedSegments : (UrlPath.rooted feedSegments).chars = "/api/v1/ws".toList := by
  decide

theorem feedScheme?_cases (hscheme : base.scheme = "http" ∨ base.scheme = "https") :
    ∃ scheme, feedScheme? base.scheme = some scheme ∧
      (scheme = "ws" ↔ base.scheme = "http") ∧ (scheme = "wss" ↔ base.scheme = "https") ∧
      usualPort? scheme = usualPort? base.scheme := by
  rcases hscheme with hs | hs <;> rw [hs]
  · exact ⟨"ws", rfl, by decide, by decide, rfl⟩
  · exact ⟨"wss", rfl, by decide, by decide, rfl⟩

/-- Every address that is made from the address of a backend stays on this backend. An endpoint, for
any identifiers, has the text of the backend up to the port, and then a path of visible ASCII
characters that begins with a slash, in which no question mark, number sign or backslash stands and
every percent sign begins an escape; nothing follows it. The feed has the name, the password, the
host and the port of the backend, is encrypted exactly when the backend is, and has a path of its
own and neither query nor fragment. -/
theorem addresses_stay_on_backend (h : Backend.parse text = .ok base) :
    ∃ a : Authority, base.authority = some a ∧ site base.scheme a <+: base.chars ∧
      (∀ ids : List String, ∃ address path, endpoint? base ids = some address ∧
        address.render = String.ofList (site base.scheme a ++ path) ∧
        address.query = none ∧ address.fragment = none ∧ path.head? = some '/' ∧
        (∀ c ∈ path, 0x20 < c.toNat ∧ c.toNat < 0x7F ∧ c ∉ ['?', '#', '\\']) ∧
        ∀ before after, path = before ++ '%' :: after →
          ∃ x y rest, after = x :: y :: rest ∧ (hexValue? x).isSome = true ∧
            (hexValue? y).isSome = true) ∧
      ∃ feed, feedAddress base = .ok feed ∧ feed.authority = some a ∧ feed.port? = base.port? ∧
        (feed.scheme = "ws" ↔ base.scheme = "http") ∧
        (feed.scheme = "wss" ↔ base.scheme = "https") ∧
        feed.path.chars = "/api/v1/ws".toList ∧ feed.query = none ∧ feed.fragment = none ∧
        feed.render = String.ofList (site feed.scheme a ++ "/api/v1/ws".toList) := by
  obtain ⟨hscheme, a, segments, ha, hpath, hsetOff⟩ := exists_of_parse h
  refine ⟨a, ha, ?_, fun ids => ?_, ?_⟩
  · rw [chars_of_authority ha hsetOff, List.append_assoc, List.append_assoc]
    exact List.prefix_append _ _
  · have hendpoint := endpoint?_of_rooted hpath ids
    rw [isSpecial_of_web hscheme] at hendpoint
    have htext := isPathText_endpointSegments ids
    refine ⟨_, _, hendpoint, ?_, rfl, rfl, head?_endpointSegments true ids, htext.visible,
      fun before after => htext.escaped⟩
    rw [render, chars_of_authority (a := a) (by exact ha) (by exact hsetOff)]
    simp [marked]
  · obtain ⟨scheme, hfeed, hws, hwss, hport⟩ := feedScheme?_cases hscheme
    refine ⟨{ base with scheme, path := .rooted feedSegments, query := none, fragment := none },
      ?_, ha, ?_, hws, hwss, chars_feedSegments, rfl, rfl, ?_⟩
    · rw [feedAddress, hfeed]
    · rw [port?, port?, hport]
    · rw [render, chars_of_authority (a := a) (by exact ha) (by exact hsetOff)]
      simp [chars_feedSegments, marked]

/-- Dots behind a tab, slashes, a question mark and a percent sign lead to no other host and to no
query, and the feed of an encrypted backend is encrypted. -/
theorem address_of_hostile_identifiers :
    ∃ base address feed,
      Backend.parse " https://ops:pw@example.com:8443/ui?tab=1#top" = .ok base ∧
      endpoint? base ["processes", "\t..", "//evil.example/?a#b%2e", "é"] = some address ∧
      address.render =
        "https://ops:pw@example.com:8443/api/v1//%2F%2Fevil.example%2F%3Fa%23b%252e/%C3%A9" ∧
      address.query = none ∧ address.fragment = none ∧
      feedAddress base = .ok feed ∧ feed.scheme = "wss" ∧ feed.port? = some 8443 := by
  let base : Url := ⟨"https", some ⟨"ops", "pw", .name "example.com", some 8443⟩, .rooted ["ui"],
    some "tab=1", some "top", false⟩
  let ids : List String := ["processes", "\t..", "//evil.example/?a#b%2e", "é"]
  have hparse : Backend.parse " https://ops:pw@example.com:8443/ui?tab=1#top" = .ok base :=
    eq_ok_of_toOption (by decide +kernel)
  obtain ⟨a, -, -, hids, feed, hfeed, -, hport, -, hwss, -⟩ := addresses_stay_on_backend hparse
  obtain ⟨address, path, haddress, -, hquery, hfragment, -⟩ := hids ids
  have hgiven : base.port? = some 8443 := by decide +kernel
  refine ⟨base, address, feed, hparse, haddress, ?_, hquery, hfragment, hfeed, hwss.2 rfl,
    hport.trans hgiven⟩
  have hrender : (endpoint? base ids).map Url.render = some
      "https://ops:pw@example.com:8443/api/v1//%2F%2Fevil.example%2F%3Fa%23b%252e/%C3%A9" := by
    decide +kernel
  rw [haddress] at hrender
  exact Option.some.inj hrender

end Backend

end OpsConsole
