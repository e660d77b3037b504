/-!
# Bytes as text

Files and replies are bytes, read as UTF-8. `strict?` refuses bytes that are not UTF-8. `symbols`
reads any bytes: where a character breaks off, the part of it that was well formed is a symbol
without a character, and reading goes on with the byte that broke it. `lossy` puts one U+FFFD in
the place of each such symbol. The bytes of a text are read as its characters.
-/

namespace OpsConsole.Text.Utf8

def strict? (bytes : List UInt8) : Option String :=
  String.fromUTF8? ⟨bytes.toArray⟩

def encode (s : String) : List UInt8 :=
  s.toUTF8.data.toList

theorem strict?_encode (s : String) : strict? (encode s) = some s := by
  simp only [strict?, encode, Array.toArray_toList, String.fromUTF8?]
  exact dif_pos s.isValidUTF8

def size (s : String) : Nat :=
  s.utf8ByteSize

/-- A character begun but not complete: how many bytes are due, the range of the next one and the
value so far. -/
structure Partial where
  due : Nat
  low : Nat
  high : Nat
  value : Nat

inductive Lead
  | complete (c : Char)
  | begun (p : Partial)
  | invalid

def lead (b : Nat) : Lead :=
  if b < 0x80 then .complete (Char.ofNat b)
  else if b < 0xC2 then .invalid
  else if b < 0xE0 then .begun ⟨1, 0x80, 0xBF, b - 0xC0⟩
  else if b = 0xE0 then .begun ⟨2, 0xA0, 0xBF, 0⟩
  else if b = 0xED then .begun ⟨2, 0x80, 0x9F, 0xD⟩
  else if b < 0xF0 then .begun ⟨2, 0x80, 0xBF, b - 0xE0⟩
  else if b = 0xF0 then .begun ⟨3, 0x90, 0xBF, 0⟩
  else if b < 0xF4 then .begun ⟨3, 0x80, 0xBF, b - 0xF0⟩
  else if b = 0xF4 then .begun ⟨3, 0x80, 0x8F, 4⟩
  else .invalid

/-- Reads a first byte: the character it completes or spoils, or the one it begins. -/
def start (out : List (Option Char)) (b : Nat) : List (Option Char) × Option Partial :=
  match lead b with
  | .complete c => (some c :: out, none)
  | .begun p => (out, some p)
  | .invalid => (none :: out, none)

/-- One byte more; `out` holds the symbols read, newest first. -/
def step (out : List (Option Char)) (begun : Option Partial) (b : Nat) :
    List (Option Char) × Option Partial :=
  match begun with
  | none => start out b
  | some p =>
    if p.low ≤ b ∧ b ≤ p.high then
      let value := p.value * 64 + (b - 0x80)
      if p.due ≤ 1 then (some (Char.ofNat value) :: out, none)
      else (out, some ⟨p.due - 1, 0x80, 0xBF, value⟩)
    else start (none :: out) b

def symbolsFrom (out : List (Option Char)) (begun : Option Partial) :
    List UInt8 → List (Option Char)
  | [] => match begun with
    | none => out.reverse
    | some _ => (none :: out).reverse
  | b :: rest =>
    let (out, begun) := step out begun b.toNat
    symbolsFrom out begun rest

def symbols (bytes : List UInt8) : List (Option Char) := symbolsFrom [] none bytes

def replacement : Char := '\uFFFD'

def lossy (bytes : List UInt8) : String :=
  String.ofList ((symbols bytes).map (·.getD replacement))

theorem encode_eq_flatMap (s : String) : encode s = s.toList.flatMap String.utf8EncodeChar := by
  have h : s.toList.utf8Encode = s.toByteArray := String.utf8Encode_toList
  rw [encode, String.toUTF8, ← h, List.utf8Encode]
  simp

section Symbols

variable {out : List (Option Char)} {p : Partial} {b v : Nat} {rest : List UInt8}

theorem toNat_ofNat_of_lt {n : Nat} (h : n < 256) : (UInt8.ofNat n).toNat = n := by
  rw [UInt8.toNat_ofNat', Nat.mod_eq_of_lt h]

theorem symbolsFrom_begun (hb : b < 256) (h : lead b = .begun p) :
    symbolsFrom out none (UInt8.ofNat b :: rest) = symbolsFrom out (some p) rest := by
  rw [symbolsFrom, toNat_ofNat_of_lt hb, step, start, h]

/-- Six bits more of a character that is not complete with them. -/
theorem symbolsFrom_more {due low high d : Nat} (hd : d < 64) (hlow : low ≤ d + 128)
    (hhigh : d + 128 ≤ high) :
    symbolsFrom out (some ⟨due + 2, low, high, v⟩) (UInt8.ofNat (d + 128) :: rest) =
      symbolsFrom out (some ⟨due + 1, 0x80, 0xBF, v * 64 + d⟩) rest := by
  have hdue : ¬ due + 2 ≤ 1 := by omega
  rw [symbolsFrom, toNat_ofNat_of_lt (by omega), step, if_pos ⟨hlow, hhigh⟩, if_neg hdue,
    Nat.add_sub_cancel]
  rfl

/-- The last six bits of a character. -/
theorem symbolsFrom_last {d : Nat} (hd : d < 64) :
    symbolsFrom out (some ⟨1, 0x80, 0xBF, v⟩) (UInt8.ofNat (d + 128) :: rest) =
      symbolsFrom (some (Char.ofNat (v * 64 + d)) :: out) none rest := by
  have hrange : 0x80 ≤ d + 128 ∧ d + 128 ≤ 0xBF := by omega
  rw [symbolsFrom, toNat_ofNat_of_lt (by omega), step, if_pos hrange, if_pos (Nat.le_refl 1),
    Nat.add_sub_cancel]

theorem lead_two (hlow : 0x80 ≤ v) (hhigh : v < 0x800) :
    lead (v / 64 % 32 + 192) = .begun ⟨1, 0x80, 0xBF, v / 64⟩ := by
  have hvalue : v / 64 % 32 + 192 - 0xC0 = v / 64 := by omega
  rw [lead, if_neg (by omega), if_neg (by omega), if_pos (by omega), hvalue]

theorem lead_three (hlow : 0x800 ≤ v) (hhigh : v < 0x10000) (hvalid : v < 0xD800 ∨ 0xDFFF < v) :
    ∃ low high, lead (v / 4096 % 16 + 224) = .begun ⟨2, low, high, v / 4096⟩ ∧
      low ≤ v / 64 % 64 + 128 ∧ v / 64 % 64 + 128 ≤ high := by
  rw [lead, if_neg (by omega), if_neg (by omega), if_neg (by omega)]
  by_cases hfirst : v / 4096 = 0
  · refine ⟨0xA0, 0xBF, ?_, by omega, by omega⟩
    rw [if_pos (by omega), hfirst]
  · rw [if_neg (by omega)]
    by_cases hlast : v / 4096 = 0xD
    · refine ⟨0x80, 0x9F, ?_, by omega, by omega⟩
      rw [if_pos (by omega), hlast]
    · refine ⟨0x80, 0xBF, ?_, by omega, by omega⟩
      have hvalue : v / 4096 % 16 + 224 - 0xE0 = v / 4096 := by omega
      rw [if_neg (by omega), if_pos (by omega), hvalue]

theorem lead_four (hlow : 0x10000 ≤ v) (hhigh : v < 0x110000) :
    ∃ low high, lead (v / 262144 % 8 + 240) = .begun ⟨3, low, high, v / 262144⟩ ∧
      low ≤ v / 4096 % 64 + 128 ∧ v / 4096 % 64 + 128 ≤ high := by
  rw [lead, if_neg (by omega), if_neg (by omega), if_neg (by omega), if_neg (by omega),
    if_neg (by omega), if_neg (by omega)]
  by_cases hfirst : v / 262144 = 0
  · refine ⟨0x90, 0xBF, ?_, by omega, by omega⟩
    rw [if_pos (by omega), hfirst]
  · rw [if_neg (by omega)]
    by_cases hlast : v / 262144 = 4
    · refine ⟨0x80, 0x8F, ?_, by omega, by omega⟩
      rw [if_neg (by omega), if_pos (by omega), hlast]
    · refine ⟨0x80, 0xBF, ?_, by omega, by omega⟩
      have hvalue : v / 262144 % 8 + 240 - 0xF0 = v / 262144 := by omega
      rw [if_pos (by omega), hvalue]

theorem symbolsFrom_one (hhigh : v < 0x80) :
    symbolsFrom out none (UInt8.ofNat v :: rest) =
      symbolsFrom (some (Char.ofNat v) :: out) none rest := by
  rw [symbolsFrom, toNat_ofNat_of_lt (by omega), step, start, lead, if_pos hhigh]

theorem symbolsFrom_two (hlow : 0x80 ≤ v) (hhigh : v < 0x800) :
    symbolsFrom out none
        (UInt8.ofNat (v / 64 % 32 + 192) :: UInt8.ofNat (v % 64 + 128) :: rest) =
      symbolsFrom (some (Char.ofNat v) :: out) none rest := by
  have hvalue : v / 64 * 64 + v % 64 = v := by omega
  rw [symbolsFrom_begun (by omega) (lead_two hlow hhigh), symbolsFrom_last (by omega), hvalue]

theorem symbolsFrom_three (hlow : 0x800 ≤ v) (hhigh : v < 0x10000)
    (hvalid : v < 0xD800 ∨ 0xDFFF < v) :
    symbolsFrom out none
        (UInt8.ofNat (v / 4096 % 16 + 224) :: UInt8.ofNat (v / 64 % 64 + 128) ::
          UInt8.ofNat (v % 64 + 128) :: rest) =
      symbolsFrom (some (Char.ofNat v) :: out) none rest := by
  obtain ⟨low, high, hlead, hfrom, hto⟩ := lead_three hlow hhigh hvalid
  have hvalue : (v / 4096 * 64 + v / 64 % 64) * 64 + v % 64 = v := by omega
  rw [symbolsFrom_begun (by omega) hlead, symbolsFrom_more (by omega) hfrom hto,
    symbolsFrom_last (by omega), hvalue]

theorem symbolsFrom_four (hlow : 0x10000 ≤ v) (hhigh : v < 0x110000) :
    symbolsFrom out none
        (UInt8.ofNat (v / 262144 % 8 + 240) :: UInt8.ofNat (v / 4096 % 64 + 128) ::
          UInt8.ofNat (v / 64 % 64 + 128) :: UInt8.ofNat (v % 64 + 128) :: rest) =
      symbolsFrom (some (Char.ofNat v) :: out) none rest := by
  obtain ⟨low, high, hlead, hfrom, hto⟩ := lead_four hlow hhigh
  have hvalue : ((v / 262144 * 64 + v / 4096 % 64) * 64 + v / 64 % 64) * 64 + v % 64 = v := by
    omega
  rw [symbolsFrom_begun (by omega) hlead, symbolsFrom_more (by omega) hfrom hto,
    symbolsFrom_more (by omega) (Nat.le_add_left _ _) (by omega),
    symbolsFrom_last (by omega), hvalue]

end Symbols

theorem symbolsFrom_encodeChar (out : List (Option Char)) (c : Char) (rest : List UInt8) :
    symbolsFrom out none (String.utf8EncodeChar c ++ rest) =
      symbolsFrom (some c :: out) none rest := by
  have hvalid : c.val.toNat < 0xD800 ∨ 0xDFFF < c.val.toNat ∧ c.val.toNat < 0x110000 := c.valid
  have hchar : Char.ofNat c.val.toNat = c := Char.ofNat_toNat c
  simp only [String.utf8EncodeChar]
  split
  · next h =>
    rw [List.singleton_append, symbolsFrom_one (by omega), hchar]
  · split
    · rw [List.cons_append, List.singleton_append, symbolsFrom_two (by omega) (by omega), hchar]
    · split
      · rw [List.cons_append, List.cons_append, List.singleton_append,
          symbolsFrom_three (by omega) (by omega) (by omega), hchar]
      · rw [List.cons_append, List.cons_append, List.cons_append, List.singleton_append,
          symbolsFrom_four (by omega) (by omega), hchar]

theorem symbolsFrom_encode (out : List (Option Char)) (cs : List Char) :
    symbolsFrom out none (cs.flatMap String.utf8EncodeChar) = out.reverse ++ cs.map some := by
  induction cs generalizing out with
  | nil => simp [symbolsFrom]
  | cons c cs ih => simp [symbolsFrom_encodeChar, ih]

theorem symbols_encode (s : String) : symbols (encode s) = s.toList.map some := by
  rw [symbols, encode_eq_flatMap, symbolsFrom_encode, List.reverse_nil, List.nil_append]

end OpsConsole.Text.Utf8
