import OpsConsole.Proofs.Url.Decoding
import OpsConsole.Url.Reader

/-!
# Segments pushed onto a path

A text pushed onto the segments of a path becomes one segment more, in which no slash stands and
which decodes to it unless it holds breaks. Some texts do otherwise: one or two dots add nothing,
and what consists of dots once its breaks are left out counts as dots after all, so that two of them
put an empty segment in the place of the segment before.

The path of a web address is one that segments can be pushed onto.
-/

namespace OpsConsole

open Text

/-! ### Written paths -/

namespace UrlPath

/-- What stands between the slashes of a path as it is written, after the first slash. -/
def written (path : UrlPath) : List (List Char) :=
  (fields (· == '/') path.chars).tail

theorem fields_chars_rooted {segments : List String} {cs : List Char}
    (hcs : ∀ c ∈ cs, (c == '/') = false) (h : ∀ s ∈ segments, '/' ∉ s.toList) :
    fields (· == '/') (cs ++ (rooted segments).chars) = cs :: segments.map String.toList := by
  induction segments generalizing cs with
  | nil => simpa [chars] using fields_of_none hcs
  | cons s segments ih =>
    have hs : ∀ c ∈ s.toList, (c == '/') = false := by
      intro c hc
      have hne : c ≠ '/' := fun he => h s List.mem_cons_self (he ▸ hc)
      exact beq_eq_false_iff_ne.2 hne
    have hrest := ih hs fun t ht => h t (List.mem_cons_of_mem s ht)
    have hchars : (rooted (s :: segments)).chars =
        '/' :: (s.toList ++ (rooted segments).chars) := rfl
    rw [hchars, fields_append_cons hcs rfl, hrest, List.map_cons]

theorem written_rooted {segments : List String} (h : ∀ s ∈ segments, '/' ∉ s.toList) :
    (rooted segments).written = segments.map String.toList := by
  have hnil : ∀ c ∈ ([] : List Char), (c == '/') = false := by simp
  have hfields := fields_chars_rooted hnil h
  rw [List.nil_append] at hfields
  rw [written, hfields, List.tail_cons]

end UrlPath

/-! ### One segment -/

namespace Url

variable {special : Bool} {segments : List String} {s : String}

/-- A segment that is held as it is: not one dot or two, and without breaks. -/
def IsPlain (s : String) : Prop := s ≠ "." ∧ s ≠ ".." ∧ s.toList.any isBreak = false

instance (s : String) : Decidable (IsPlain s) :=
  inferInstanceAs (Decidable (s ≠ "." ∧ s ≠ ".." ∧ s.toList.any isBreak = false))

theorem isPlain_empty : IsPlain "" := by decide

theorem withoutBreaks_eq_self {cs : List Char} :
    withoutBreaks cs = cs ↔ cs.any isBreak = false := by
  simp [withoutBreaks, List.filter_eq_self]

/-- A text as a segment: without its breaks, encoded. -/
def segmentText (special : Bool) (s : String) : List Char :=
  percentEncode (inSegment special) (withoutBreaks s.toList)

theorem encodes_percent (special : Bool) : inSegment special '%' = true := by
  cases special <;> rfl

theorem encodes_slash (special : Bool) : inSegment special '/' = true := by
  cases special <;> rfl

theorem slash_not_mem_segmentText (special : Bool) (s : String) :
    '/' ∉ segmentText special s :=
  slash_not_mem_percentEncode (encodes_slash special) _

theorem percentDecode_segmentText :
    percentDecode (segmentText special s) = Utf8.encode s ↔ s.toList.any isBreak = false := by
  rw [segmentText, percentDecode_percentEncode (encodes_percent special), Utf8.encode_eq_flatMap,
    ← withoutBreaks_eq_self]
  constructor
  · exact Utf8.flatMap_utf8EncodeChar_injective
  · intro h
    rw [h]

theorem not_isPlain_of_dots {n : Nat} (h : dots? (segmentText special s) = some n)
    (hn : n = 1 ∨ n = 2) : ¬ IsPlain s := by
  intro ⟨hdot, hdots, hplain⟩
  have hs : s.toList = List.replicate n '.' := by
    rw [← withoutBreaks_eq_self.2 hplain]
    exact eq_replicate_of_dots (encodes_percent special) h
  rcases hn with rfl | rfl
  · exact hdot (String.toList_inj.1 hs)
  · exact hdots (String.toList_inj.1 hs)

theorem climb_cases (stack : List (List Char)) :
    climb stack = stack ∨ climb stack = stack.tail := by
  cases stack with
  | nil => exact .inl rfl
  | cons t stack =>
    rw [climb]
    split
    · exact .inl rfl
    · exact .inr rfl

theorem addSegment_of_dots {stack : List (List Char)} {t : List Char}
    (h : dots? t = some 1 ∨ dots? t = some 2) :
    addSegment true stack t = [] :: stack ∨ addSegment true stack t = [] :: stack.tail := by
  rcases h with h | h
  · refine .inl ?_
    rw [addSegment, h]
    rfl
  · have hclimb : addSegment true stack t = [] :: climb stack := by
      rw [addSegment, h]
      rfl
    rw [hclimb]
    rcases climb_cases stack with hstack | hstack
    · exact .inl (by rw [hstack])
    · exact .inr (by rw [hstack])

theorem addSegment_of_not_dots {stack : List (List Char)} {t : List Char}
    (hone : dots? t ≠ some 1) (htwo : dots? t ≠ some 2) : addSegment true stack t = t :: stack := by
  rw [addSegment]
  split
  · contradiction
  · contradiction
  · rfl

/-- The segments that a stack holds, which has the newest on top. -/
def unstacked (stack : List (List Char)) : List String := stack.reverse.map String.ofList

theorem unstacked_cons (t : List Char) (stack : List (List Char)) :
    unstacked (t :: stack) = unstacked stack ++ [String.ofList t] := by
  simp [unstacked]

theorem unstacked_reverse (segments : List String) :
    unstacked (segments.reverse.map String.toList) = segments := by
  simp [unstacked]

theorem unstacked_tail_reverse (segments : List String) :
    unstacked (segments.reverse.map String.toList).tail = segments.dropLast := by
  rw [← unstacked_reverse segments.dropLast, ← List.tail_reverse, List.map_tail]

/-- A push appends the segment, or leaves the segments as they are, or appends an empty one, or
puts an empty one in the place of the last. -/
theorem pushSegment_cases (special : Bool) (s : String) (h : segments ≠ [""]) :
    (s ≠ "." ∧ s ≠ ".." ∧
      pushSegment special segments s = segments ++ [String.ofList (segmentText special s)]) ∨
    (¬ IsPlain s ∧
      (pushSegment special segments s = segments ∨
        pushSegment special segments s = segments ++ [""] ∨
        pushSegment special segments s = segments.dropLast ++ [""])) := by
  by_cases hskip : s = "." ∨ s = ".."
  · refine .inr ⟨?_, .inl (if_pos hskip)⟩
    rintro ⟨hdot, htwo, -⟩
    exact hskip.elim hdot htwo
  have hpush : pushSegment special segments s =
      unstacked (addSegment true (segments.reverse.map String.toList)
        (segmentText special s)) := by
    rw [pushSegment, if_neg hskip, if_neg h]
    rfl
  rw [hpush]
  by_cases hdots : dots? (segmentText special s) = some 1 ∨ dots? (segmentText special s) = some 2
  · have hplain : ¬ IsPlain s :=
      hdots.elim (not_isPlain_of_dots · (.inl rfl)) (not_isPlain_of_dots · (.inr rfl))
    refine .inr ⟨hplain, .inr ?_⟩
    rcases addSegment_of_dots hdots with hadd | hadd
    · rw [hadd, unstacked_cons, unstacked_reverse]
      exact .inl rfl
    · rw [hadd, unstacked_cons, unstacked_tail_reverse]
      exact .inr rfl
  · obtain ⟨hone, htwo⟩ := not_or.1 hdots
    obtain ⟨hdot, htwodots⟩ := not_or.1 hskip
    rw [addSegment_of_not_dots hone htwo, unstacked_cons, unstacked_reverse]
    exact .inl ⟨hdot, htwodots, rfl⟩

/-! ### Web addresses -/

theorem exists_of_withAuthority {scheme : String} {bare : Bool} {cs : List Char}
    {place : Option Authority} {path : UrlPath} (hspecial : (schemeKind scheme).isSpecial = true)
    (h : withAuthority scheme bare cs = .ok (place, path)) :
    ∃ a segments, place = some a ∧ path = .rooted segments := by
  unfold withAuthority at h
  simp only [hspecial] at h
  cases hread : readAuthority scheme (bare && (cs.dropWhile (!isSlash true ·)).isEmpty)
      (cs.takeWhile (!isSlash true ·)) with
  | error e =>
    rw [hread] at h
    cases h
  | ok r =>
    rw [hread] at h
    cases h
    unfold rootedPath
    split
    · exact ⟨_, _, rfl, rfl⟩
    · exact ⟨_, _, rfl, rfl⟩

/-- A web address has an authority and a path that segments can be pushed onto, which follows the
authority at once. -/
theorem exists_of_parse {text : String} {base : Url} (h : parse text = .ok base)
    (hscheme : base.scheme = "http" ∨ base.scheme = "https") :
    ∃ a segments, base.authority = some a ∧ base.path = .rooted segments ∧
      base.setOff = false := by
  unfold parse at h
  split at h
  · cases h
  next scheme rest hrest =>
  dsimp only at h
  cases hplace : place (String.ofList scheme) (Parts.ofChars rest) with
  | error e =>
    rw [hplace] at h
    cases h
  | ok p =>
    rw [hplace] at h
    cases h
    have hkind : schemeKind (String.ofList scheme) = .special := by
      rcases hscheme with hs | hs <;> (rw [show String.ofList scheme = _ from hs]; rfl)
    unfold place at hplace
    rw [hkind] at hplace
    obtain ⟨a, segments, ha, hpath⟩ := exists_of_withAuthority (by rw [hkind]; rfl) hplace
    exact ⟨a, segments, ha, hpath, congrArg (looksPlaced · p.snd) ha⟩

theorem rooted_of_parse {text : String} {base : Url} (h : parse text = .ok base)
    (hscheme : base.scheme = "http" ∨ base.scheme = "https") :
    ∃ segments, base.path = .rooted segments := by
  obtain ⟨-, segments, -, hpath, -⟩ := exists_of_parse h hscheme
  exact ⟨segments, hpath⟩

end Url

end OpsConsole
