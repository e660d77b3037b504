import Mathlib.Data.List.Induction
import OpsConsole.Backend.Address
import OpsConsole.Backend.Exchange
import OpsConsole.Proofs.Url.Pushing

/-!
# Identifiers in an endpoint

An endpoint is built by pushing the prefix and then the identifiers. A push that does not append a
segment for its identifier leaves too few of them for good, so every identifier is found in its
place exactly when all of them are plain. Whatever they are, the endpoint stays below the first
segment of the prefix.
-/

namespace OpsConsole

open Text

namespace Backend

open Url

theorem endpointSegments_nil (special : Bool) : endpointSegments special [] = apiSegments := by
  cases special <;> decide +kernel

theorem endpointSegments_append_singleton (special : Bool) (ids : List String) (id : String) :
    endpointSegments special (ids ++ [id]) =
      pushSegment special (endpointSegments special ids) id := by
  rw [endpointSegments, ← List.append_assoc, List.foldl_append]
  rfl

/-- Two segments at least are always there, and the first of them stays. -/
theorem exists_endpointSegments_eq (special : Bool) (ids : List String) :
    ∃ second rest, endpointSegments special ids = "api" :: second :: rest := by
  induction ids using List.reverseRecOn with
  | nil => exact ⟨"v1", [], endpointSegments_nil special⟩
  | append_singleton ids id ih =>
    obtain ⟨second, rest, hids⟩ := ih
    have hne : endpointSegments special ids ≠ [""] := by simp [hids]
    rw [endpointSegments_append_singleton]
    rcases pushSegment_cases special id hne with
      ⟨-, -, hpush⟩ | ⟨-, hpush | hpush | hpush⟩ <;> rw [hpush, hids]
    · exact ⟨_, _, rfl⟩
    · exact ⟨_, _, rfl⟩
    · exact ⟨_, _, rfl⟩
    · cases rest with
      | nil => exact ⟨_, _, rfl⟩
      | cons third rest => exact ⟨_, _, rfl⟩

theorem endpointSegments_ne (special : Bool) (ids : List String) :
    endpointSegments special ids ≠ [""] := by
  obtain ⟨second, rest, h⟩ := exists_endpointSegments_eq special ids
  simp [h]

theorem length_endpointSegments_pos (special : Bool) (ids : List String) :
    0 < (endpointSegments special ids).length := by
  obtain ⟨second, rest, h⟩ := exists_endpointSegments_eq special ids
  simp [h]

theorem length_endpointSegments_le (special : Bool) (ids : List String) :
    (endpointSegments special ids).length ≤ apiSegments.length + ids.length := by
  induction ids using List.reverseRecOn with
  | nil => exact Nat.le_of_eq (congrArg List.length (endpointSegments_nil special))
  | append_singleton ids id ih =>
    rw [endpointSegments_append_singleton]
    rcases pushSegment_cases special id (endpointSegments_ne special ids) with
      ⟨-, -, hpush⟩ | ⟨-, hpush | hpush | hpush⟩ <;> rw [hpush] <;> simp <;> omega

/-- The segments are those of the prefix, encoded identifiers, and empty ones. -/
theorem forall_mem_endpointSegments {special : Bool} {P : String → Prop}
    (hapi : ∀ s ∈ apiSegments, P s) (hempty : P "")
    (hsegment : ∀ id, P (String.ofList (segmentText special id))) (ids : List String) :
    ∀ s ∈ endpointSegments special ids, P s := by
  induction ids using List.reverseRecOn with
  | nil =>
    rw [endpointSegments_nil]
    exact hapi
  | append_singleton ids id ih =>
    rw [endpointSegments_append_singleton]
    rcases pushSegment_cases special id (endpointSegments_ne special ids) with
      ⟨-, -, hpush⟩ | ⟨-, hpush | hpush | hpush⟩ <;> rw [hpush]
    · exact List.forall_mem_append.2 ⟨ih, by simpa using hsegment id⟩
    · exact ih
    · exact List.forall_mem_append.2 ⟨ih, by simpa using hempty⟩
    · have hinit : ∀ s ∈ (endpointSegments special ids).dropLast, P s :=
        fun s hs => ih s ((List.dropLast_sublist _).subset hs)
      exact List.forall_mem_append.2 ⟨hinit, by simpa using hempty⟩

theorem slash_not_mem_of_mem_endpointSegments (special : Bool) (ids : List String) :
    ∀ s ∈ endpointSegments special ids, '/' ∉ s.toList :=
  forall_mem_endpointSegments (by decide) (by simp)
    (fun id => by simpa using slash_not_mem_segmentText special id) ids

theorem encode_eq_nil {s : String} (h : Utf8.encode s = []) : s = "" :=
  Utf8.encode_injective (h.trans (by decide +kernel : [] = Utf8.encode ""))

/-- Every identifier is decoded from its own place exactly when all of them are plain. -/
theorem decoded_eq_iff (special : Bool) (ids : List String) :
    (endpointSegments special ids).map (percentDecode ·.toList) =
      (apiSegments ++ ids).map Utf8.encode ↔ ∀ id ∈ ids, IsPlain id := by
  induction ids using List.reverseRecOn with
  | nil =>
    rw [endpointSegments_nil, List.append_nil]
    exact iff_of_true (by decide +kernel) (by simp)
  | append_singleton ids id ih =>
    have hsplit : (apiSegments ++ (ids ++ [id])).map Utf8.encode =
        (apiSegments ++ ids).map Utf8.encode ++ [Utf8.encode id] := by
      rw [← List.append_assoc, List.map_append]
      rfl
    rw [endpointSegments_append_singleton, List.forall_mem_append, List.forall_mem_singleton, ← ih,
      hsplit]
    -- Without a segment more there is no place for the last identifier, nor will there be.
    have hlength := length_endpointSegments_le special ids
    have hshort : ∀ segments : List String,
        segments.length ≤ (endpointSegments special ids).length →
        segments.map (percentDecode ·.toList) ≠
          (apiSegments ++ ids).map Utf8.encode ++ [Utf8.encode id] := by
      intro segments hle h
      have hlen := congrArg List.length h
      simp only [List.length_map, List.length_append, List.length_singleton] at hlen
      omega
    rcases pushSegment_cases special id (endpointSegments_ne special ids) with
      ⟨hdot, hdots, hpush⟩ | ⟨hplain, hpush | hpush | hpush⟩ <;> rw [hpush]
    · have hdecoded : percentDecode (segmentText special id) = Utf8.encode id ↔ IsPlain id := by
        rw [percentDecode_segmentText, IsPlain, and_iff_right hdot, and_iff_right hdots]
      rw [List.map_append, List.map_singleton, List.append_singleton_inj, String.toList_ofList,
        hdecoded]
    · exact iff_of_false (hshort _ (Nat.le_refl _)) fun h => hplain h.2
    · refine iff_of_false (fun h => ?_) fun h => hplain h.2
      rw [List.map_append, List.map_singleton, List.append_singleton_inj] at h
      exact hplain (encode_eq_nil h.2.symm ▸ isPlain_empty)
    · have hpos := length_endpointSegments_pos special ids
      refine iff_of_false (hshort _ ?_) fun h => hplain h.2
      rw [List.length_append, List.length_dropLast, List.length_singleton]
      omega

theorem written_endpointSegments (special : Bool) (ids : List String) :
    (UrlPath.rooted (endpointSegments special ids)).written.map percentDecode =
      (endpointSegments special ids).map (percentDecode ·.toList) := by
  rw [UrlPath.written_rooted (slash_not_mem_of_mem_endpointSegments special ids), List.map_map]
  rfl

theorem endpoint?_of_rooted {base : Url} {segments : List String}
    (h : base.path = .rooted segments) (ids : List String) :
    endpoint? base ids = some { base with
      path := .rooted (endpointSegments base.isSpecial ids), query := none, fragment := none } := by
  rw [endpoint?, h]

/-- For any web address as a base, and any identifiers, there is an endpoint on the same host, below
the first segment of the prefix. What stands between the slashes of its path decodes to the prefix
and then the identifiers, each in its place, exactly when all identifiers are plain. Different lists
of plain identifiers have different endpoints. -/
theorem endpoint_keeps_identifiers_iff {text : String} {base : Url}
    (hparse : Url.parse text = .ok base)
    (hscheme : base.scheme = "http" ∨ base.scheme = "https") :
    (∀ ids : List String, ∃ address, endpoint? base ids = some address ∧
      address.scheme = base.scheme ∧ address.authority = base.authority ∧
      address.path.written.head? = some "api".toList ∧
      (address.path.written.map percentDecode = (apiSegments ++ ids).map Utf8.encode ↔
        ∀ id ∈ ids, IsPlain id)) ∧
    ∀ ids ids' : List String, (∀ id ∈ ids, IsPlain id) → (∀ id ∈ ids', IsPlain id) →
      endpoint? base ids = endpoint? base ids' → ids = ids' := by
  obtain ⟨segments, hrooted⟩ := rooted_of_parse hparse hscheme
  constructor
  · intro ids
    refine ⟨_, endpoint?_of_rooted hrooted ids, rfl, rfl, ?_, ?_⟩
    · obtain ⟨second, rest, hids⟩ := exists_endpointSegments_eq base.isSpecial ids
      rw [UrlPath.written_rooted (slash_not_mem_of_mem_endpointSegments _ ids), hids]
      rfl
    · rw [written_endpointSegments]
      exact decoded_eq_iff base.isSpecial ids
  · intro ids ids' hids hids' h
    rw [endpoint?_of_rooted hrooted, endpoint?_of_rooted hrooted, Option.some.injEq] at h
    have hsegments : endpointSegments base.isSpecial ids = endpointSegments base.isSpecial ids' :=
      UrlPath.rooted.inj (congrArg Url.path h)
    have hdecoded := (decoded_eq_iff base.isSpecial ids).2 hids
    rw [hsegments, (decoded_eq_iff base.isSpecial ids').2 hids'] at hdecoded
    have hall := (List.map_inj_right Utf8.encode_injective).1 hdecoded
    exact (List.append_cancel_left hall).symm

/-- A slash, a blank and dots among other characters stay in the place of their identifier, and an
empty identifier has a place of its own. -/
theorem endpoint_of_plain :
    ∃ base address,
      Url.parse "http://localhost:8080/ui/?tab=1" = .ok base ∧ base.scheme = "http" ∧
      endpoint? base ["processes", "web 1/../x", "start"] = some address ∧
      address.render = "http://localhost:8080/api/v1/processes/web%201%2F..%2Fx/start" ∧
      address.path.written.map percentDecode =
        ["api", "v1", "processes", "web 1/../x", "start"].map Utf8.encode ∧
      endpoint? base ["tasks", "", "run"] ≠ endpoint? base ["tasks", "run"] := by
  let base : Url := ⟨"http", some ⟨"", "", .name "localhost", some 8080⟩, .rooted ["ui", ""],
    some "tab=1", none, false⟩
  have hparse : Url.parse "http://localhost:8080/ui/?tab=1" = .ok base :=
    eq_ok_of_toOption (by decide +kernel)
  obtain ⟨hkept, hdistinct⟩ := endpoint_keeps_identifiers_iff hparse (.inl rfl)
  obtain ⟨address, haddress, -, -, -, hiff⟩ := hkept ["processes", "web 1/../x", "start"]
  refine ⟨base, address, hparse, rfl, haddress, ?_, hiff.2 (by decide), ?_⟩
  · have hrender : (endpoint? base ["processes", "web 1/../x", "start"]).map Url.render =
        some "http://localhost:8080/api/v1/processes/web%201%2F..%2Fx/start" := by
      decide +kernel
    rw [haddress] at hrender
    exact Option.some.inj hrender
  · intro h
    exact absurd (hdistinct _ _ (by decide) (by decide) h) (by decide)

/-- Behind a break two dots climb: the identifier takes the place of the segment before it, and the
endpoint is that of no process. A break or a dot also makes two lists of identifiers share an
endpoint. -/
theorem endpoint_of_breaks_and_dots :
    ∃ base address,
      Url.parse "http://localhost:8080" = .ok base ∧ base.scheme = "http" ∧
      endpoint? base ["processes", "\t..", "start"] = some address ∧
      address.render = "http://localhost:8080/api/v1//start" ∧
      address.path.written.map percentDecode ≠
        (apiSegments ++ ["processes", "\t..", "start"]).map Utf8.encode ∧
      endpoint? base ["processes", "a\nb"] = endpoint? base ["processes", "ab"] ∧
      endpoint? base ["processes", "."] = endpoint? base ["processes"] := by
  refine ⟨⟨"http", some ⟨"", "", .name "localhost", some 8080⟩, .rooted [""], none, none, false⟩,
    ⟨"http", some ⟨"", "", .name "localhost", some 8080⟩, .rooted ["api", "v1", "", "start"], none,
      none, false⟩,
    eq_ok_of_toOption (by decide +kernel), rfl, ?_, ?_, ?_, ?_, ?_⟩ <;> decide +kernel

end Backend

end OpsConsole
