import OpsConsole.Proofs.Json.Numerals

/-!
# The numeral of a number

Every number is written as a well-formed numeral: a whole number in its own digits, a double
positionally or with one digit before the point. The shortest decimal of a double that is not zero
has a coefficient that is not zero either, so no zero leads its digits.
-/

namespace OpsConsole

theorem Decimal.coefficient_dropZeros_ne {n : Nat} {d : Decimal} (h : d.coefficient ≠ 0) :
    (d.dropZeros n).coefficient ≠ 0 := by
  induction n generalizing d with
  | zero => exact h
  | succ n ih =>
    rw [dropZeros]
    split
    · apply ih
      simp only
      omega
    · exact h

namespace Binary64

theorem low_interval_pos {x : Binary64} (h : x.isZero = false) : 0 < x.interval.low := by
  have hm : x.mantissa ≠ 0 := by simpa [isZero] using h
  simp only [interval]
  split <;> omega

theorem coefficient_onGrid?_ne {x : Binary64} (h : x.isZero = false) {k : Int} {d : Decimal}
    (hd : x.onGrid? k = some d) : d.coefficient ≠ 0 := by
  have hlow : 0 < x.interval.low * (Nat.pow 2 (x.exponent - 2).toNat * Nat.pow 10 (-k).toNat) :=
    Nat.mul_pos (low_interval_pos h)
      (Nat.mul_pos (Nat.pow_pos (by decide)) (Nat.pow_pos (by decide)))
  -- A coefficient of zero would lie below the interval, so only the neighbour above it could count.
  simp only [onGrid?] at hd
  split at hd
  · next hin _ =>
    cases hd
    split at hin <;> grind
  · next hin _ =>
    cases hd
    split at hin <;> grind
  · cases hd
    simp
  · cases hd

theorem shortest_zero {x : Binary64} (h : x.shortest.coefficient = 0) :
    x.shortest.exponent = 0 := by
  by_cases hz : x.isZero
  · simp [shortest, hz]
  · have hz' : x.isZero = false := by simpa using hz
    have hgrid : ∀ tries n e, (x.firstGrid e tries n).coefficient = 0 →
        x.firstGrid e tries n = ⟨0, 0⟩ := by
      intro tries
      induction tries with
      | zero => exact fun _ _ _ => rfl
      | succ tries ih =>
        intro n e
        rw [firstGrid]
        split
        · next d hd =>
          intro hc
          exact (Decimal.coefficient_dropZeros_ne (coefficient_onGrid?_ne hz' hd) hc).elim
        · exact ih (n + 1) e
    rw [shortest, if_neg hz] at h ⊢
    rw [hgrid _ _ _ h]

end Binary64

namespace Json

def positionalNumeral (negative : Bool) (digits : List Char) (point : Int) : Numeral :=
  if point ≤ 0 then ⟨negative, ['0'], List.replicate (-point).toNat '0' ++ digits, none⟩
  else
    ⟨negative, digits.take point.toNat ++ List.replicate (point.toNat - digits.length) '0',
      if (digits.drop point.toNat).isEmpty then ['0'] else digits.drop point.toNat, none⟩

def scientificNumeral (negative : Bool) (digits : List Char) (power : Int) : Numeral :=
  ⟨negative, digits.take 1, digits.drop 1, some (decide (power < 0), Nat.toDigits 10 power.natAbs)⟩

def realNumeral (x : Binary64) : Numeral :=
  if x.isZero then ⟨x.negative, ['0'], ['0'], none⟩
  else
    let d := x.shortest
    if realStyle.positionalFrom ≤ d.leadingPower ∧ d.leadingPower < 16 then
      positionalNumeral x.negative d.digits (d.leadingPower + 1)
    else scientificNumeral x.negative d.digits d.leadingPower

def Number.numeral : Number → Numeral
  | .whole n _ => ⟨false, Nat.toDigits 10 n, [], none⟩
  | .negative n .. => ⟨true, Nat.toDigits 10 n, [], none⟩
  | .real x => realNumeral x

namespace Numeral

theorem fractionChars_of_ne_nil {ds : List Char} (h : ds ≠ []) : fractionChars ds = '.' :: ds := by
  cases ds with
  | nil => exact (h rfl).elim
  | cons c r => rfl

theorem chars_positional (negative : Bool) {digits : List Char} (h : digits ≠ []) (point : Int) :
    (positionalNumeral negative digits point).chars =
      (if negative then ['-'] else []) ++ Binary64.positional digits point := by
  unfold positionalNumeral Binary64.positional
  split
  · have hne : List.replicate (-point).toNat '0' ++ digits ≠ [] := by simp [h]
    simp [chars, fractionChars_of_ne_nil hne, exponentChars]
  · have hne : (if (digits.drop point.toNat).isEmpty then ['0'] else digits.drop point.toNat) ≠
        [] := by
      split
      · simp
      · simp_all
    simp only [chars, fractionChars_of_ne_nil hne, exponentChars, List.append_nil,
      List.append_assoc]

theorem chars_scientific (negative : Bool) (digits : List Char) (power : Int) :
    (scientificNumeral negative digits power).chars =
      (if negative then ['-'] else []) ++ Binary64.scientific realStyle digits power := by
  have hrest : fractionChars digits.tail = if digits.tail = [] then [] else '.' :: digits.tail := by
    cases digits.tail <;> rfl
  by_cases hp : power < 0 <;>
    simp [scientificNumeral, chars, Binary64.scientific, hrest, exponentChars, realStyle, hp]

end Numeral

theorem chars_numeral (n : Number) : n.numeral.chars = n.chars := by
  cases n with
  | whole n _ => simp [Number.numeral, Numeral.chars, Numeral.fractionChars, Numeral.exponentChars,
      Number.chars]
  | negative n _ _ => simp [Number.numeral, Numeral.chars, Numeral.fractionChars,
      Numeral.exponentChars, Number.chars]
  | real x =>
    rw [Number.numeral, realNumeral, Number.chars, Binary64.chars]
    by_cases hz : x.isZero
    · simp [hz, Numeral.chars, Numeral.fractionChars, Numeral.exponentChars]
    · simp only [hz, Bool.false_eq_true, if_false]
      split
      · exact Numeral.chars_positional _ Nat.toDigits_ne_nil _
      · exact Numeral.chars_scientific _ _ _

/-- Digits of a whole number with zeros up to the point, cut at the point if they go beyond. -/
theorem isWhole_take_pad {ds : List Char} (hds : IsWhole ds) {n : Nat} (hn : 0 < n)
    (hlead : ds.head? = some '0' → n = 1) :
    IsWhole (ds.take n ++ List.replicate (n - ds.length) '0') := by
  obtain ⟨c, r, rfl⟩ := List.exists_cons_of_ne_nil hds.ne_nil
  obtain ⟨m, rfl⟩ := Nat.exists_eq_succ_of_ne_zero (Nat.pos_iff_ne_zero.1 hn)
  refine ⟨by simp, ?_, ?_⟩
  · intro d hd
    rcases List.mem_append.1 hd with htake | hzero
    · exact hds.digits d (List.mem_of_mem_take htake)
    · rw [List.eq_of_mem_replicate hzero]
      rfl
  · intro hhead
    have hc : c = '0' := by simpa using hhead
    have hone := hlead (by simp [hc])
    have hr := hds.lead (by simp [hc])
    cases hr
    simp at hone
    simp [hone]

theorem wellFormed_positional (negative : Bool) {ds : List Char} (hds : IsWhole ds) (point : Int)
    (hlead : ds.head? = some '0' → point = 1) :
    (positionalNumeral negative ds point).WellFormed := by
  unfold positionalNumeral
  split
  · refine ⟨isWhole_toDigits 0, ?_, nofun⟩
    intro c hc
    rcases List.mem_append.1 hc with hzero | hd
    · rw [List.eq_of_mem_replicate hzero]
      rfl
    · exact hds.digits c hd
  · next hpoint =>
    refine ⟨isWhole_take_pad hds (by omega) fun h => by rw [hlead h]; rfl, ?_, nofun⟩
    intro c hc
    simp only at hc
    split at hc
    · rw [List.mem_singleton.1 hc]
      rfl
    · exact hds.digits c (List.mem_of_mem_drop hc)

theorem wellFormed_scientific (negative : Bool) {ds : List Char} (hds : IsWhole ds)
    (power : Int) : (scientificNumeral negative ds power).WellFormed := by
  refine ⟨⟨?_, ?_, ?_⟩, ?_, ?_⟩
  · simp [scientificNumeral, hds.ne_nil]
  · exact fun c hc => hds.digits c (List.mem_of_mem_take hc)
  · obtain ⟨c, r, rfl⟩ := List.exists_cons_of_ne_nil hds.ne_nil
    simp [scientificNumeral]
  · exact fun c hc => hds.digits c (List.mem_of_mem_drop hc)
  · rintro e ⟨rfl⟩
    exact ⟨Nat.toDigits_ne_nil, fun c => isDigit_of_mem_toDigits⟩

/-- A decimal with the coefficient zero is only used with the exponent zero. -/
theorem leadingPower_of_zero {x : Binary64} (h : x.shortest.digits.head? = some '0') :
    x.shortest.leadingPower = 0 := by
  have hc : x.shortest.coefficient = 0 := by
    rcases Nat.eq_zero_or_pos x.shortest.coefficient with hzero | hpos
    · exact hzero
    · exact (head?_toDigits_ne hpos h).elim
  simp [Decimal.leadingPower, Decimal.digits, hc, Binary64.shortest_zero hc]

theorem wellFormed_numeral (n : Number) : n.numeral.WellFormed := by
  cases n with
  | whole n _ => exact ⟨isWhole_toDigits n, nofun, nofun⟩
  | negative n _ _ => exact ⟨isWhole_toDigits n, nofun, nofun⟩
  | real x =>
    rw [Number.numeral, realNumeral]
    have hds : IsWhole x.shortest.digits := isWhole_toDigits _
    split
    · exact ⟨isWhole_toDigits 0, by simp, nofun⟩
    · simp only
      split
      · exact wellFormed_positional _ hds _ fun h => by rw [leadingPower_of_zero h]; rfl
      · exact wellFormed_scientific _ hds _

end Json

end OpsConsole
