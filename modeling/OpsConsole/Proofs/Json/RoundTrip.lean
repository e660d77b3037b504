import OpsConsole.Json.Proper
import OpsConsole.Proofs.Json.Rendering

/-!
# Reading what was written

A whole number is the value of its numeral. A double is when it reads back, which is a
property of that double alone. A proper value whose doubles read back is the value of its document
within exactly the levels that it nests, so reading what was written gives it back.
-/

namespace OpsConsole.Json

/-- The text printed for this double is read as this double. -/
def ReadsBack (x : Binary64) : Prop :=
  parse (Number.real x).text = some (.number (.real x))

instance (x : Binary64) : Decidable (ReadsBack x) :=
  inferInstanceAs (Decidable (parse (Number.real x).text = some (.number (.real x))))

namespace Numeral

theorem le_ofDigitChars (ds : List Char) (s : Nat) : s ≤ Nat.ofDigitChars 10 ds s := by
  rw [Nat.ofDigitChars_eq_ofDigitChars_zero]
  have hpos : 0 < 10 ^ ds.length := Nat.pow_pos (by decide)
  have hmul := Nat.le_mul_of_pos_left s hpos
  omega

theorem gather_eq (ds : List Char) (s : Nat) (h : Nat.ofDigitChars 10 ds s < Nat.pow 2 64) :
    gather s ds = (Nat.ofDigitChars 10 ds s, []) := by
  induction ds generalizing s with
  | nil => simp [gather]
  | cons c ds ih =>
    rw [Nat.ofDigitChars_cons] at h ⊢
    have hnext : 10 * s + (c.toNat - 48) < Nat.pow 2 64 :=
      Nat.lt_of_le_of_lt (le_ofDigitChars ds _) h
    rw [gather, if_pos hnext]
    exact ih _ h

theorem gather_toDigits {n : Nat} (h : n < Nat.pow 2 64) :
    gather 0 (Nat.toDigits 10 n) = (n, []) := by
  have hdigits := Nat.ofDigitChars_ten_toDigits (n := n)
  rw [gather_eq _ _ (by rwa [hdigits]), hdigits]

end Numeral

theorem parse_text (n : Number) : parse n.text = n.numeral.value?.map .number := by
  have hchars : n.text.toList = (Value.number n).chars := by simp [Number.text, Value.chars]
  rw [parse, hchars, Document.parse_chars]
  rfl

theorem value?_numeral {n : Number} (hr : ∀ x, n = .real x → ReadsBack x) :
    n.numeral.value? = some n := by
  cases n with
  | whole n fits => simp [Number.numeral, Numeral.value?, Numeral.gather_toDigits fits]
  | negative n pos fits =>
    have hlt : n < Nat.pow 2 64 := Nat.lt_of_le_of_lt fits (by decide)
    simp [Number.numeral, Numeral.value?, Numeral.gather_toDigits hlt, pos, fits]
  | real x =>
    have hread : parse (Number.real x).text = some (.number (.real x)) := hr x rfl
    -- The text is read as one numeral, so what it parses as is the value of that numeral.
    rw [parse_text] at hread
    obtain ⟨m, hm, heq⟩ := Option.map_eq_some_iff.1 hread
    cases heq
    exact hm

namespace Value

mutual
/-- The doubles in a value. -/
def reals : Value → List Binary64
  | .number (.real x) => [x]
  | .array items => itemsReals items
  | .object members => membersReals members
  | _ => []
def itemsReals : List Value → List Binary64
  | [] => []
  | v :: r => reals v ++ itemsReals r
def membersReals : List (String × Value) → List Binary64
  | [] => []
  | (_, v) :: r => reals v ++ membersReals r
end

end Value

namespace Document

mutual
theorem value?_document (levels : Nat) :
    (v : Value) → v.Proper → (∀ x ∈ v.reals, ReadsBack x) →
      v.document.value? levels = if v.depth ≤ levels then some v else none
  | .null, _, _ => by simp [Value.document, value?, Value.depth]
  | .boolean _, _, _ => by simp [Value.document, value?, Value.depth]
  | .number n, _, hr => by
    have hread : n.numeral.value? = some n := by
      refine value?_numeral ?_
      rintro x rfl
      exact hr x (by simp [Value.reals])
    simp [Value.document, value?, Value.depth, hread]
  | .text s, _, _ => by
    simp [Value.document, value?, Value.depth, Piece.text?_writtenPieces]
  | .array items, hv, hr => by
    cases levels with
    | zero => simp [Value.document, value?, Value.depth]
    | succ levels =>
      rw [Value.document, value?, itemsOnto_documents levels [] items hv hr]
      simp [Value.depth]
  | .object members, hv, hr => by
    cases levels with
    | zero => simp [Value.document, value?, Value.depth]
    | succ levels =>
      obtain ⟨hsorted, hmembers⟩ := hv
      rw [Value.document, value?, membersOnto_documents levels [] members hmembers hr]
      simp [Value.depth, Value.ofMembers_of_sorted hsorted]
theorem itemsOnto_documents (levels : Nat) (out : List Value) :
    (r : List Value) → Value.ItemsProper r → (∀ x ∈ Value.itemsReals r, ReadsBack x) →
      itemsOnto levels out (Value.itemDocuments r) =
        if Value.depthItems r ≤ levels then some (.array (out.reverse ++ r)) else none
  | [], _, _ => by simp [Value.itemDocuments, itemsOnto, Value.depthItems]
  | v :: r, hr, hx => by
    obtain ⟨hv, hrest⟩ := hr
    have hreals : ∀ x ∈ v.reals ++ Value.itemsReals r, ReadsBack x := hx
    obtain ⟨hx, hxs⟩ := List.forall_mem_append.1 hreals
    have hhead := value?_document levels v hv hx
    have htail := itemsOnto_documents levels (v :: out) r hrest hxs
    by_cases hdepth : v.depth ≤ levels
    · rw [if_pos hdepth] at hhead
      rw [Value.itemDocuments, itemsOnto, hhead]
      simp only
      rw [htail]
      simp only [Value.depthItems, Nat.max_le, hdepth, true_and, List.reverse_cons,
        List.append_assoc, List.singleton_append]
    · rw [if_neg hdepth] at hhead
      rw [Value.itemDocuments, itemsOnto, hhead]
      simp only [Value.depthItems, Nat.max_le, hdepth, false_and, if_false]
theorem membersOnto_documents (levels : Nat) (out : List (String × Value)) :
    (r : List (String × Value)) → Value.MembersProper r →
      (∀ x ∈ Value.membersReals r, ReadsBack x) →
        membersOnto levels out (Value.memberDocuments r) =
          if Value.depthMembers r ≤ levels then some (.ofMembers (out.reverse ++ r)) else none
  | [], _, _ => by simp [Value.memberDocuments, membersOnto, Value.depthMembers]
  | (k, v) :: r, hr, hx => by
    obtain ⟨hv, hrest⟩ := hr
    have hreals : ∀ x ∈ v.reals ++ Value.membersReals r, ReadsBack x := hx
    obtain ⟨hx, hxs⟩ := List.forall_mem_append.1 hreals
    have hhead := value?_document levels v hv hx
    have htail := membersOnto_documents levels ((k, v) :: out) r hrest hxs
    by_cases hdepth : v.depth ≤ levels
    · rw [if_pos hdepth] at hhead
      rw [Value.memberDocuments, membersOnto, Piece.text?_writtenPieces, hhead]
      simp only
      rw [htail]
      simp only [Value.depthMembers, Nat.max_le, hdepth, true_and, List.reverse_cons,
        List.append_assoc, List.singleton_append]
    · rw [if_neg hdepth] at hhead
      rw [Value.memberDocuments, membersOnto, Piece.text?_writtenPieces, hhead]
      simp only [Value.depthMembers, Nat.max_le, hdepth, false_and, if_false]
end

end Document

/-- A proper value is read back from its text, if it nests within the limit. -/
theorem parse_render {v : Value} (hv : v.Proper) (hr : ∀ x ∈ v.reals, ReadsBack x) :
    parse v.render = if v.depth ≤ nestingLimit then some v else none := by
  rw [parse, Value.toList_render, Document.parse_chars, Option.bind_some]
  exact Document.value?_document nestingLimit v hv hr

end OpsConsole.Json
