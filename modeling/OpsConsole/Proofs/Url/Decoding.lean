import OpsConsole.Text.Utf8
import OpsConsole.Url.Segments

/-!
# Percent encoding taken back

Where the percent sign is among the characters encoded, decoding gives back the bytes of any text.
So an encoded text that reads as dots is one of dots. Where the slash is among them too, none is
left in the encoded text.
-/

namespace OpsConsole

namespace Text.Utf8

theorem encode_injective : Function.Injective encode := by
  intro s t h
  have hs := strict?_encode s
  rw [h, strict?_encode] at hs
  exact (Option.some.inj hs).symm

theorem flatMap_utf8EncodeChar_injective {cs ds : List Char}
    (h : cs.flatMap String.utf8EncodeChar = ds.flatMap String.utf8EncodeChar) : cs = ds := by
  have he : encode (String.ofList cs) = encode (String.ofList ds) := by
    simpa only [encode_eq_flatMap, String.toList_ofList] using h
  exact String.ofList_injective (encode_injective he)

end Text.Utf8

namespace Url

open Text

variable {encoded : Char → Bool}

theorem hexValue?_hexDigit {n : Nat} (h : n < 16) : hexValue? (hexDigit n) = some n := by
  decide +revert

theorem percentDecode_encodeByte (b : UInt8) (r : List Char) :
    percentDecode (encodeByte b ++ r) = b :: percentDecode r := by
  have hb : b.toNat < 256 := b.toNat_lt
  have hhigh : hexValue? (hexDigit (b.toNat / 16)) = some (b.toNat / 16) :=
    hexValue?_hexDigit (by omega)
  have hlow : hexValue? (hexDigit (b.toNat % 16)) = some (b.toNat % 16) :=
    hexValue?_hexDigit (by omega)
  have hvalue : 16 * (b.toNat / 16) + b.toNat % 16 = b.toNat := by omega
  simp only [encodeByte, List.cons_append, List.nil_append, percentDecode, hhigh, hlow, hvalue,
    UInt8.ofNat_toNat]

theorem percentDecode_encodeBytes (bytes : List UInt8) (r : List Char) :
    percentDecode (bytes.flatMap encodeByte ++ r) = bytes ++ percentDecode r := by
  induction bytes with
  | nil => rfl
  | cons b bytes ih =>
    rw [List.flatMap_cons, List.append_assoc, percentDecode_encodeByte, ih, List.cons_append]

theorem percentDecode_cons_of_ne {c : Char} (h : c ≠ '%') (r : List Char) :
    percentDecode (c :: r) = String.utf8EncodeChar c ++ percentDecode r := by
  rw [percentDecode]
  intro a b r' hc
  exact absurd hc h

theorem percentDecode_encodeChar (hp : encoded '%' = true) (c : Char) (r : List Char) :
    percentDecode (encodeChar encoded c ++ r) = String.utf8EncodeChar c ++ percentDecode r := by
  unfold encodeChar
  split
  · exact percentDecode_encodeBytes _ _
  · next hc =>
    -- What stands for itself is no percent sign, so nothing after it can be taken for digits.
    have hne : c ≠ '%' := fun h => hc (h ▸ hp)
    exact percentDecode_cons_of_ne hne r

theorem percentDecode_percentEncode (hp : encoded '%' = true) (cs : List Char) :
    percentDecode (percentEncode encoded cs) = cs.flatMap String.utf8EncodeChar := by
  induction cs with
  | nil => rfl
  | cons c cs ih =>
    unfold percentEncode at ih ⊢
    rw [List.flatMap_cons, List.flatMap_cons, percentDecode_encodeChar hp, ih]

/-! ### Slashes -/

theorem hexDigit_ne_slash {n : Nat} (h : n < 16) : hexDigit n ≠ '/' := by
  decide +revert

theorem slash_not_mem_encodeByte (b : UInt8) : '/' ∉ encodeByte b := by
  have hb : b.toNat < 256 := b.toNat_lt
  have hhigh : hexDigit (b.toNat / 16) ≠ '/' := hexDigit_ne_slash (by omega)
  have hlow : hexDigit (b.toNat % 16) ≠ '/' := hexDigit_ne_slash (by omega)
  simp [encodeByte, hhigh.symm, hlow.symm]

theorem slash_not_mem_percentEncode (hs : encoded '/' = true) (cs : List Char) :
    '/' ∉ percentEncode encoded cs := by
  intro h
  obtain ⟨c, -, hc⟩ := List.mem_flatMap.1 h
  unfold encodeChar at hc
  split at hc
  · obtain ⟨b, -, hb⟩ := List.mem_flatMap.1 hc
    exact slash_not_mem_encodeByte b hb
  · next hplain =>
    rw [List.mem_singleton] at hc
    exact hplain (hc ▸ hs)

/-! ### Dots -/

/-- A segment that counts as dots holds their bytes, whether they are encoded or not. -/
theorem percentDecode_of_dots {s : List Char} {n : Nat} (h : dots? s = some n) :
    percentDecode s = (List.replicate n '.').flatMap String.utf8EncodeChar := by
  induction s using dots?.induct generalizing n with
  | case1 =>
    cases h
    rfl
  | case2 r ih | case3 r ih | case4 r ih =>
    obtain ⟨m, hm, rfl⟩ := Option.map_eq_some_iff.1 h
    rw [List.replicate_succ, List.flatMap_cons, ← ih hm]
    rfl
  | case5 s hnil hdot hlower hupper =>
    rw [dots?] at h
    · cases h
    all_goals assumption

theorem eq_replicate_of_dots (hp : encoded '%' = true) {cs : List Char} {n : Nat}
    (h : dots? (percentEncode encoded cs) = some n) : cs = List.replicate n '.' := by
  apply Utf8.flatMap_utf8EncodeChar_injective
  rw [← percentDecode_percentEncode hp, percentDecode_of_dots h]

end Url

end OpsConsole
