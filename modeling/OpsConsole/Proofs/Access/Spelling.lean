import Mathlib.Data.List.DropRight
import Mathlib.Data.List.Nodup
import OpsConsole.Access.Route

/-!
# Spellings of a page

A page may be spelled in many ways: any number of slashes may follow it, and then a query or a
fragment. All of them lead to the same decision, so no spelling gets around a guard. A page that
needs a session sends a visitor without one to sign in; with a session it is shown to
administrators and to holders of its permission on every scope. What is no page is open to all.
-/

namespace OpsConsole

open Text

namespace Route

variable {cs slashes suffix : List Char} {page path : String} {r : Route}

/-- A character that belongs neither to a query nor to a fragment. -/
def inPage (c : Char) : Bool := c != '?' && c != '#'

theorem inPage_eq_true_iff {c : Char} : inPage c = true ↔ c ≠ '?' ∧ c ≠ '#' := by
  simp [inPage]

/-- What may follow a page and its slashes: nothing, a query or a fragment. -/
def IsSuffix (cs : List Char) : Prop := ∀ c ∈ cs.head?, c = '?' ∨ c = '#'

/-- What is written of a page before its slashes: of the landing page, nothing. -/
def stem (page : String) : List Char := if page = landingPath then [] else page.toList

/-- A path that leads to a page: the page, slashes and a suffix. -/
def Spells (page path : String) : Prop :=
  ∃ slashes suffix, path.toList = stem page ++ slashes ++ suffix ∧ (∀ c ∈ slashes, c = '/') ∧
    IsSuffix suffix

theorem takeWhile_append_suffix (h : ∀ c ∈ cs, inPage c = true) (hsuffix : IsSuffix suffix) :
    (cs ++ suffix).takeWhile inPage = cs := by
  rw [List.takeWhile_append_of_pos h]
  cases suffix with
  | nil => exact List.append_nil cs
  | cons c suffix => rcases hsuffix c rfl with rfl | rfl <;> exact List.append_nil cs

theorem isSuffix_dropWhile (cs : List Char) : IsSuffix (cs.dropWhile inPage) := by
  intro c hc
  have hstop : ¬ inPage c = true := by simp [head?_dropWhile_not inPage cs c hc]
  rw [inPage_eq_true_iff, not_and_or, not_not, not_not] at hstop
  exact hstop

theorem dropTail_append_slashes (cs : List Char) (hslashes : ∀ c ∈ slashes, c = '/') :
    dropTail (· == '/') (cs ++ slashes) = dropTail (· == '/') cs := by
  have hall : ∀ c ∈ slashes.reverse, (c == '/') = true := by simpa using hslashes
  rw [dropTail, List.reverse_append, List.dropWhile_append_of_pos hall, dropTail]

theorem normalChars_append (h : ∀ c ∈ cs, inPage c = true) (hslashes : ∀ c ∈ slashes, c = '/')
    (hsuffix : IsSuffix suffix) : normalChars (cs ++ slashes ++ suffix) = normalChars cs := by
  have hpage : ∀ c ∈ cs ++ slashes, inPage c = true := by
    refine List.forall_mem_append.2 ⟨h, fun c hc => ?_⟩
    rw [hslashes c hc]
    rfl
  have hcs : cs.takeWhile inPage = cs := List.takeWhile_eq_self_iff.2 h
  have hwhole : (cs ++ slashes ++ suffix).takeWhile inPage = cs ++ slashes :=
    takeWhile_append_suffix hpage hsuffix
  unfold inPage at hcs hwhole
  rw [normalChars, normalChars, hwhole, hcs, dropTail_append_slashes cs hslashes]

theorem normalPath_append {p slashes suffix : String} (h : ∀ c ∈ p.toList, inPage c = true)
    (hslashes : ∀ c ∈ slashes.toList, c = '/') (hsuffix : IsSuffix suffix.toList) :
    normalPath (p ++ slashes ++ suffix) = normalPath p := by
  rw [normalPath, String.toList_append, String.toList_append,
    normalChars_append h hslashes hsuffix, normalPath]

/-- A page as the table holds it: the landing page, or a text that neither ends in a slash nor
holds a query or a fragment. -/
def IsNormal (page : String) : Prop :=
  page = landingPath ∨
    (page ≠ "" ∧ page.toList.getLast? ≠ some '/' ∧ page.toList.all inPage = true)

instance (page : String) : Decidable (IsNormal page) :=
  inferInstanceAs (Decidable (_ ∨ _))

theorem normalChars_stem (h : IsNormal page) : normalChars (stem page) = page.toList := by
  by_cases hpage : page = landingPath
  · subst hpage
    decide
  · obtain ⟨hne, hlast, hchars⟩ := h.resolve_left hpage
    have hcs : page.toList.takeWhile inPage = page.toList :=
      List.takeWhile_eq_self_iff.2 (List.all_eq_true.1 hchars)
    unfold inPage at hcs
    have hkept : dropTail (· == '/') page.toList = page.toList := by
      refine List.rdropWhile_eq_self_iff.2 fun hnil => ?_
      rw [List.getLast?_eq_getLast_of_ne_nil hnil] at hlast
      simpa using hlast
    have hnil : page.toList ≠ [] := by simpa using hne
    rw [stem, if_neg hpage, normalChars, hcs, hkept]
    split
    · contradiction
    · rfl

theorem dropTail_ne_landing (cs : List Char) :
    String.ofList (dropTail (· == '/') cs) ≠ landingPath := by
  intro h
  have hchars : cs.rdropWhile (· == '/') = ['/'] := String.ofList_injective h
  have hne : cs.rdropWhile (· == '/') ≠ [] := by simp [hchars]
  have hlast := List.rdropWhile_last_not (· == '/') cs hne
  simp [hchars] at hlast

theorem stem_normalChars (cs : List Char) :
    stem (String.ofList (normalChars cs)) = dropTail (· == '/') (cs.takeWhile inPage) := by
  unfold inPage
  rw [normalChars]
  split
  · next hnil =>
    rw [hnil]
    decide
  · rw [stem, if_neg (dropTail_ne_landing _), String.toList_ofList]

theorem spells_normalPath (path : String) : Spells (normalPath path) path := by
  refine ⟨(path.toList.takeWhile inPage).rtakeWhile (· == '/'), path.toList.dropWhile inPage, ?_,
    fun c hc => by simpa using List.mem_rtakeWhile_imp hc, isSuffix_dropWhile _⟩
  have hpage : dropTail (· == '/') (path.toList.takeWhile inPage) ++
      (path.toList.takeWhile inPage).rtakeWhile (· == '/') = path.toList.takeWhile inPage :=
    List.rdropWhile_append_rtakeWhile
  rw [normalPath, stem_normalChars, hpage, List.takeWhile_append_dropWhile]

/-- A path spells one page and no other. -/
theorem normalPath_eq_iff_spells (h : IsNormal page) :
    normalPath path = page ↔ Spells page path := by
  constructor
  · rintro rfl
    exact spells_normalPath path
  · rintro ⟨slashes, suffix, hpath, hslashes, hsuffix⟩
    have hstem : ∀ c ∈ stem page, inPage c = true := by
      intro c hc
      rw [stem] at hc
      split at hc
      · cases hc
      · next hpage => exact List.all_eq_true.1 (h.resolve_left hpage).2.2 c hc
    rw [normalPath, hpath, normalChars_append hstem hslashes hsuffix, normalChars_stem h,
      String.ofList_toList]

theorem normalChars_ne_nil (cs : List Char) : normalChars cs ≠ [] := by
  rw [normalChars]
  split
  · exact List.cons_ne_nil _ _
  · next hne => exact hne

theorem isNormal_normalPath (path : String) : IsNormal (normalPath path) := by
  by_cases hpage : normalPath path = landingPath
  · exact .inl hpage
  have hchars : (normalPath path).toList =
      (path.toList.takeWhile inPage).rdropWhile (· == '/') := by
    have hstem := stem_normalChars path.toList
    rwa [← normalPath, stem, if_neg hpage] at hstem
  have hne : (path.toList.takeWhile inPage).rdropWhile (· == '/') ≠ [] := by
    rw [← hchars, normalPath, String.toList_ofList]
    exact normalChars_ne_nil _
  refine .inr ⟨?_, ?_, List.all_eq_true.2 fun c hc => ?_⟩
  · simpa [← hchars] using hne
  · have hlast := List.rdropWhile_last_not (· == '/') _ hne
    rw [hchars, List.getLast?_eq_getLast_of_ne_nil hne]
    simpa using hlast
  · rw [hchars] at hc
    exact List.mem_takeWhile_imp ((List.rdropWhile_prefix _ _).subset hc)

theorem spells_self (page : String) : Spells page page := by
  by_cases hpage : page = landingPath
  · subst hpage
    exact ⟨['/'], [], by decide, by simp, nofun⟩
  · exact ⟨[], [], by simp [stem, hpage], by simp, nofun⟩

@[simp] theorem normalPath_normalPath (path : String) :
    normalPath (normalPath path) = normalPath path :=
  (normalPath_eq_iff_spells (isNormal_normalPath path)).2 (spells_self _)

/-! ### The table -/

theorem isNormal_of_mem : ∀ r ∈ all, IsNormal r.path := by decide

theorem nodup_paths : (all.map (·.path)).Nodup := by decide

theorem find?_eq_some_iff : find? path = some r ↔ r ∈ all ∧ Spells r.path path := by
  rw [find?]
  constructor
  · intro h
    have hr := List.mem_of_find?_eq_some h
    have hpath : r.path = normalPath path := by simpa using List.find?_some h
    exact ⟨hr, (normalPath_eq_iff_spells (isNormal_of_mem r hr)).1 hpath.symm⟩
  · rintro ⟨hr, hspells⟩
    have hpath := (normalPath_eq_iff_spells (isNormal_of_mem r hr)).2 hspells
    cases hfound : all.find? (·.path = normalPath path) with
    | none => simp [hpath] at hfound; exact absurd rfl (hfound r hr)
    | some r' =>
      have hr' := List.mem_of_find?_eq_some hfound
      have hpath' : r'.path = normalPath path := by simpa using List.find?_some hfound
      rw [List.inj_on_of_nodup_map nodup_paths hr' hr (hpath'.trans hpath)]

theorem find?_eq_none_iff : find? path = none ↔ ∀ r ∈ all, ¬ Spells r.path path := by
  constructor
  · intro h r hr hspells
    rw [find?_eq_some_iff.2 ⟨hr, hspells⟩] at h
    cases h
  · intro h
    cases hfound : find? path with
    | none => rfl
    | some r =>
      obtain ⟨hr, hspells⟩ := find?_eq_some_iff.1 hfound
      exact absurd hspells (h r hr)

theorem find?_normalPath (path : String) : find? (normalPath path) = find? path := by
  rw [find?, find?, normalPath_normalPath]

/-- The permissions of the table are read, each as a claim on every scope. -/
theorem permission_of_mem {text : String} (h : r ∈ all) (ht : r.permission = some text) :
    ∃ c, Claim.parse? text = some c ∧ c.resource ++ ":" ++ c.action = text ∧
      c.scope = Claim.wildcard := by
  have hall : ∀ r ∈ all, r.permission.all fun text => (Claim.parse? text).any fun c =>
      c.resource ++ ":" ++ c.action = text ∧ c.scope = Claim.wildcard := by
    decide +kernel
  have hread := hall r h
  rw [ht, Option.all_some, Option.any_eq_true] at hread
  obtain ⟨c, hc, hparts⟩ := hread
  exact ⟨c, hc, of_decide_eq_true hparts⟩

/-- Whether a page is shown to a session: it needs no permission, or the user is an administrator
or holds the permission on every scope. -/
def Admits (r : Route) (s : Session) : Prop :=
  r.permission = none ∨ User.adminRole ∈ s.user.roles ∨
    ∃ text, r.permission = some text ∧ text ++ ":*" ∈ s.user.permissions

theorem permits_iff_admits (h : r ∈ all) (s : Session) :
    r.permits (some s) = true ↔ r.Admits s := by
  rw [permits, Admits]
  cases hr : r.permission with
  | none => simp
  | some text =>
    obtain ⟨c, hread, hparts, hwildcard⟩ := permission_of_mem h hr
    have hscope : c.withScope Claim.wildcard = c := by
      rw [← hwildcard]
      rfl
    have htext : c.text = text ++ ":*" := by
      rw [Claim.text, hparts, hwildcard, Claim.wildcard, String.append_assoc]
      rfl
    simp [hread, satisfies, User.satisfies, User.isAdmin, hscope, htext]

theorem open_of_mem : ∀ r ∈ all, r.needsSession = false → r.permission = none := by decide

theorem landing_open_of_mem : ∀ r ∈ all, r.path = landingPath → r.needsSession = false := by decide

end Route

/-! ### Decisions -/

section

open Route

variable {path : String} {session : Option Session} {r : Route}

theorem visit_congr {p q : String} (h : normalPath p = normalPath q) (session : Option Session) :
    visit p session = visit q session := by
  rw [visit, visit, h]

theorem visit_eq_toDashboard_iff :
    visit path session = .toDashboard ↔ Spells landingPath path ∧ session.isSome = true := by
  rw [← normalPath_eq_iff_spells (.inl rfl), visit]
  split
  · next h => exact iff_of_true rfl h
  · next h =>
    refine iff_of_false ?_ h
    split
    · exact Decision.noConfusion
    · split
      · exact Decision.noConfusion
      · split <;> exact Decision.noConfusion

/-- Unless a signed-in visitor is sent on from the landing page, the table decides. -/
theorem visit_of_not_landing (h : ¬ (Spells landingPath path ∧ session.isSome = true)) :
    visit path session = match find? path with
      | none => .allow
      | some r =>
        if r.needsSession ∧ session.isNone then .toLogin
        else if r.permits session then .allow
        else .toLanding := by
  rw [← normalPath_eq_iff_spells (.inl rfl)] at h
  cases hpage : find? path with
  | none => simp only [visit, if_neg h, find?_normalPath, hpage]
  | some r => simp only [visit, if_neg h, find?_normalPath, hpage]

theorem visit_of_no_page (h : ∀ r ∈ all, ¬ Spells r.path path) :
    visit path session = .allow := by
  have hlanding : ¬ Spells landingPath path := h (opened landingPath "Landing") List.mem_cons_self
  rw [visit_of_not_landing (fun hl => hlanding hl.1), find?_eq_none_iff.2 h]

theorem visit_of_open (hr : r ∈ all) (hspells : Spells r.path path)
    (hopen : r.needsSession = false)
    (hlanding : ¬ (Spells landingPath path ∧ session.isSome = true)) :
    visit path session = .allow := by
  rw [visit_of_not_landing hlanding, find?_eq_some_iff.2 ⟨hr, hspells⟩]
  simp [hopen, permits, open_of_mem r hr hopen]

theorem not_landing_of_needsSession (hr : r ∈ all) (hspells : Spells r.path path)
    (hneeds : r.needsSession = true) : ¬ Spells landingPath path := by
  rw [← normalPath_eq_iff_spells (isNormal_of_mem r hr)] at hspells
  rw [← normalPath_eq_iff_spells (.inl rfl), hspells]
  intro hlanding
  rw [landing_open_of_mem r hr hlanding] at hneeds
  cases hneeds

theorem visit_signed_out (hr : r ∈ all) (hspells : Spells r.path path)
    (hneeds : r.needsSession = true) : visit path none = .toLogin := by
  rw [visit_of_not_landing (by simp), find?_eq_some_iff.2 ⟨hr, hspells⟩]
  simp [hneeds]

theorem visit_signed_in (hr : r ∈ all) (hspells : Spells r.path path)
    (hneeds : r.needsSession = true) (s : Session) :
    (r.Admits s → visit path (some s) = .allow) ∧
      (¬ r.Admits s → visit path (some s) = .toLanding) := by
  have hlanding := not_landing_of_needsSession hr hspells hneeds
  rw [visit_of_not_landing (fun h => hlanding h.1), find?_eq_some_iff.2 ⟨hr, hspells⟩,
    ← permits_iff_admits hr s]
  constructor <;> intro h <;> simp [h]

/-- No spelling of a page gets around its guard. Slashes, a query and a fragment make no difference
to the decision. A page of the table that needs a session sends a visitor without one to sign in;
with a session it is shown to whom it admits, and others are sent to the landing page. Those, and
only those, who are signed in are sent on from the landing page, and from there alone. What is no
page of the table is open to everyone, as are the page to sign in and, without a session, the
landing page. -/
theorem visit_of_spelling :
    (∀ (p slashes suffix : String) (session : Option Session),
      (∀ c ∈ p.toList, c ≠ '?' ∧ c ≠ '#') → (∀ c ∈ slashes.toList, c = '/') →
      IsSuffix suffix.toList → visit (p ++ slashes ++ suffix) session = visit p session) ∧
    (∀ (path : String), ∀ r ∈ all, Spells r.path path → r.needsSession = true →
      visit path none = .toLogin ∧
      ∀ s : Session, (visit path (some s) = .allow ↔ r.Admits s) ∧
        (visit path (some s) = .toLanding ↔ ¬ r.Admits s)) ∧
    (∀ (path : String) (session : Option Session),
      visit path session = .toDashboard ↔ Spells landingPath path ∧ session.isSome = true) ∧
    (∀ (path : String) (session : Option Session),
      (∀ r ∈ all, ¬ Spells r.path path) ∨ Spells loginPath path → visit path session = .allow) ∧
    (∀ path : String, Spells landingPath path → visit path none = .allow) ∧
    (∀ path : String, find? (normalPath path) = find? path) ∧
    ∀ r ∈ all, ∀ text ∈ r.permission, ∃ c, Claim.parse? text = some c ∧
      c.resource ++ ":" ++ c.action = text ∧ c.scope = Claim.wildcard := by
  refine ⟨?_, ?_, fun path session => visit_eq_toDashboard_iff, ?_, ?_, find?_normalPath,
    fun r hr text ht => permission_of_mem hr ht⟩
  · intro p slashes suffix session hp hslashes hsuffix
    have hpage : ∀ c ∈ p.toList, inPage c = true := fun c hc => inPage_eq_true_iff.2 (hp c hc)
    exact visit_congr (normalPath_append hpage hslashes hsuffix) session
  · intro path r hr hspells hneeds
    refine ⟨visit_signed_out hr hspells hneeds, fun s => ?_⟩
    obtain ⟨hshown, hrefused⟩ := visit_signed_in hr hspells hneeds s
    by_cases hadmits : r.Admits s
    · simp [hshown hadmits, hadmits]
    · simp [hrefused hadmits, hadmits]
  · rintro path session (hnone | hlogin)
    · exact visit_of_no_page hnone
    · have hmem : opened loginPath "Login" ∈ all := by decide
      refine visit_of_open hmem hlogin rfl fun hlanding => ?_
      have hpage := (normalPath_eq_iff_spells (isNormal_of_mem _ hmem)).2 hlogin
      rw [← normalPath_eq_iff_spells (.inl rfl), hpage] at hlanding
      exact absurd hlanding.1 (by decide)
  · intro path hlanding
    exact visit_of_open (r := opened landingPath "Landing") (by decide) hlanding rfl (by simp)

/-- A viewer of processes is shown the logs and not the secrets, whatever follows these pages. -/
theorem viewer_of_processes :
    let viewer : User := { (default : User) with permissions := .ofList ["process:read:*"] }
    let s : Session := ⟨⟨"abc", by decide, by decide⟩, viewer⟩
    visit ("/logs" ++ "//" ++ "?process=api#end") (some s) = .allow ∧
      visit "/secrets/?" (some s) = .toLanding ∧ visit "/secrets/?" none = .toLogin := by
  intro viewer s
  obtain ⟨hspelling, hguarded, -⟩ := visit_of_spelling
  have hlogs : visit ("/logs" ++ "//" ++ "?process=api#end") (some s) = visit "/logs" (some s) :=
    hspelling "/logs" "//" "?process=api#end" (some s) (by simp) (by simp) (by simp [IsSuffix])
  have hsecrets := hguarded "/secrets/?" (guarded "/secrets" "SecretsManagement" "secrets:read")
    (by decide) ⟨['/'], ['?'], by decide, by simp, by simp [IsSuffix]⟩ rfl
  have hrefused : ¬ (guarded "/secrets" "SecretsManagement" "secrets:read").Admits s := by
    rw [← permits_iff_admits (by decide)]
    decide +kernel
  refine ⟨?_, (hsecrets.2 s).2.2 hrefused, hsecrets.1⟩
  rw [hlogs]
  decide +kernel

end

end OpsConsole
