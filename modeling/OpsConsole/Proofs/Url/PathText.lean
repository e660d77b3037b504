import OpsConsole.Proofs.Url.Decoding

/-!
# Texts that stay within a path

A text of visible ASCII characters stays within a path if it holds no question mark and no number
sign, which would end the path, no backslash, which counts as a slash, and no percent sign but those
of escapes. Whatever a segment is made from, its encoded text is of this kind, and so are the paths
that such segments make up.
-/

namespace OpsConsole.Url

open Text

/-- A visible character that stands for itself in a path. -/
def isPathChar (c : Char) : Bool :=
  0x20 < c.toNat && c.toNat < 0x7F && !(['%', '?', '#', '\\'].contains c)

/-- Path characters and escapes, each a percent sign and two hexadecimal digits. -/
inductive IsPathText : List Char → Prop
  | nil : IsPathText []
  | plain {c : Char} {cs : List Char} (hc : isPathChar c = true) (hcs : IsPathText cs) :
    IsPathText (c :: cs)
  | escape {a b : Char} {cs : List Char} (ha : (hexValue? a).isSome = true)
    (hb : (hexValue? b).isSome = true) (hcs : IsPathText cs) : IsPathText ('%' :: a :: b :: cs)

namespace IsPathText

variable {cs ds : List Char}

theorem of_chars (h : ∀ c ∈ cs, isPathChar c = true) : IsPathText cs := by
  induction cs with
  | nil => exact .nil
  | cons c cs ih =>
    obtain ⟨hc, hcs⟩ := List.forall_mem_cons.1 h
    exact .plain hc (ih hcs)

theorem append (hcs : IsPathText cs) (hds : IsPathText ds) : IsPathText (cs ++ ds) := by
  induction hcs with
  | nil => exact hds
  | plain hc _ ih => exact .plain hc ih
  | escape ha hb _ ih => exact .escape ha hb ih

theorem flatMap {α : Type} {xs : List α} {f : α → List Char} (h : ∀ x ∈ xs, IsPathText (f x)) :
    IsPathText (xs.flatMap f) := by
  induction xs with
  | nil => exact .nil
  | cons x xs ih =>
    rw [List.flatMap_cons]
    exact (h x List.mem_cons_self).append (ih fun y hy => h y (List.mem_cons_of_mem x hy))

end IsPathText

/-! ### Path characters -/

theorem isPathChar_iff {c : Char} :
    isPathChar c = true ↔ (0x20 < c.toNat ∧ c.toNat < 0x7F) ∧ c ∉ ['%', '?', '#', '\\'] := by
  simp [isPathChar]

theorem toNat_of_hexValue? {c : Char} (h : (hexValue? c).isSome = true) :
    0x30 ≤ c.toNat ∧ c.toNat ≤ 0x66 := by
  simp only [hexValue?, Char.isDigit, Char.le_def, UInt32.le_iff_toNat_le] at h
  split at h
  · next hdigit =>
    have hrange : 0x30 ≤ c.toNat ∧ c.toNat ≤ 0x39 := by simpa using hdigit
    omega
  · split at h
    · next hlower =>
      have hrange : 0x61 ≤ c.toNat ∧ c.toNat ≤ 0x66 := by simpa using hlower
      omega
    · split at h
      · next hupper =>
        have hrange : 0x41 ≤ c.toNat ∧ c.toNat ≤ 0x46 := by simpa using hupper
        omega
      · cases h

theorem isPathChar_of_hexValue? {c : Char} (h : (hexValue? c).isSome = true) :
    isPathChar c = true := by
  have hrange := toNat_of_hexValue? h
  refine isPathChar_iff.2 ⟨by omega, fun hc => ?_⟩
  have hnone : ∀ d ∈ ['%', '?', '#', '\\'], (hexValue? d).isNone = true :=
    List.all_eq_true.1 (by decide)
  rw [Option.isNone_iff_eq_none.1 (hnone c hc)] at h
  cases h

/-- What a segment of a web address holds unencoded may stand in its path. -/
theorem isPathChar_of_not_inSegment {c : Char} (h : inSegment true c = false) :
    isPathChar c = true := by
  have hencoded : ∀ d ∈ [' ', '%', '?', '#', '\\'], inSegment true d = true :=
    List.all_eq_true.1 (by decide)
  have hmem : c ∉ [' ', '%', '?', '#', '\\'] := by
    intro hc
    rw [hencoded c hc] at h
    cases h
  obtain ⟨hblank, hrest⟩ := not_or.1 (mt List.mem_cons.2 hmem)
  have hcontrol : isControl c = false := by
    simp only [inSegment, inPath, inFragment, Bool.or_eq_false_iff] at h
    exact h.1.1.1.1
  have hrange : 0x20 ≤ c.toNat ∧ c.toNat ≤ 0x7E := by
    simpa [isControl] using hcontrol
  have hne : c.toNat ≠ 0x20 := fun hc => hblank (Char.toNat_inj.1 hc)
  exact isPathChar_iff.2 ⟨by omega, hrest⟩

/-! ### Encoded segments -/

theorem isPathText_encodeByte (b : UInt8) : IsPathText (encodeByte b) := by
  have hb : b.toNat < 256 := b.toNat_lt
  have hhigh : hexValue? (hexDigit (b.toNat / 16)) = some (b.toNat / 16) :=
    hexValue?_hexDigit (by omega)
  have hlow : hexValue? (hexDigit (b.toNat % 16)) = some (b.toNat % 16) :=
    hexValue?_hexDigit (by omega)
  exact .escape (by rw [hhigh]; rfl) (by rw [hlow]; rfl) .nil

theorem isPathText_percentEncode (cs : List Char) :
    IsPathText (percentEncode (inSegment true) cs) := by
  refine .flatMap fun c _ => ?_
  rw [encodeChar]
  split
  · exact .flatMap fun b _ => isPathText_encodeByte b
  · next hc => exact .plain (isPathChar_of_not_inSegment (Bool.eq_false_iff.2 hc)) .nil

/-! ### What a path text holds -/

namespace IsPathText

variable {cs : List Char}

/-- Nothing in a path text leads out of the path. -/
theorem visible (h : IsPathText cs) :
    ∀ c ∈ cs, 0x20 < c.toNat ∧ c.toNat < 0x7F ∧ c ∉ ['?', '#', '\\'] := by
  have hchar : ∀ c, isPathChar c = true → 0x20 < c.toNat ∧ c.toNat < 0x7F ∧
      c ∉ ['?', '#', '\\'] := by
    intro c hc
    obtain ⟨⟨hlow, hhigh⟩, hmem⟩ := isPathChar_iff.1 hc
    exact ⟨hlow, hhigh, fun hin => hmem (List.mem_cons_of_mem _ hin)⟩
  induction h with
  | nil => simp
  | plain hc _ ih => exact List.forall_mem_cons.2 ⟨hchar _ hc, ih⟩
  | escape ha hb _ ih =>
    have hdigit := fun c hc => hchar c (isPathChar_of_hexValue? hc)
    exact List.forall_mem_cons.2 ⟨by decide, List.forall_mem_cons.2 ⟨hdigit _ ha,
      List.forall_mem_cons.2 ⟨hdigit _ hb, ih⟩⟩⟩

/-- Every percent sign begins an escape. -/
theorem escaped (h : IsPathText cs) {before after : List Char}
    (hcs : cs = before ++ '%' :: after) :
    ∃ a b rest, after = a :: b :: rest ∧ (hexValue? a).isSome = true ∧
      (hexValue? b).isSome = true := by
  have hpercent : ∀ c, (hexValue? c).isSome = true → c ≠ '%' := by
    rintro c hc rfl
    cases hc
  induction h generalizing before with
  | nil => simp at hcs
  | plain hc _ ih =>
    cases before with
    | nil =>
      obtain ⟨rfl, -⟩ := List.cons.inj hcs
      cases hc
    | cons x before => exact ih (List.cons.inj hcs).2
  | escape ha hb _ ih =>
    -- The sign is the one of this escape, since its digits are none, or it comes later.
    match before with
    | [] => exact ⟨_, _, _, (List.cons.inj hcs).2.symm, ha, hb⟩
    | [x] => exact absurd (List.cons.inj (List.cons.inj hcs).2).1 (hpercent _ ha)
    | [x, y] =>
      exact absurd (List.cons.inj (List.cons.inj (List.cons.inj hcs).2).2).1 (hpercent _ hb)
    | x :: y :: z :: before =>
      exact ih (List.cons.inj (List.cons.inj (List.cons.inj hcs).2).2).2

end IsPathText

end OpsConsole.Url
