/-!
# International labels in ASCII

A label with characters outside ASCII is written as its ASCII characters, a hyphen if there are
any, and then for each other character, in increasing order, how many steps further on in the
order of all insertions it comes. The steps are written in variable-length numerals of base 36,
whose thresholds follow a bias that adapts to what was written before.
-/

namespace OpsConsole.Url.Punycode

def digit (d : Nat) : Char :=
  if d < 26 then Char.ofNat ('a'.toNat + d) else Char.ofNat ('0'.toNat + (d - 26))

def digitValue? (c : Char) : Option Nat :=
  if c.isLower then some (c.toNat - 'a'.toNat)
  else if c.isUpper then some (c.toNat - 'A'.toNat)
  else if c.isDigit then some (c.toNat - '0'.toNat + 26)
  else none

/-- The threshold of the digit at a position, positions counting up by 36. -/
def threshold (position bias : Nat) : Nat :=
  max 1 (min 26 (position - bias))

theorem threshold_pos (position bias : Nat) : 1 ≤ threshold position bias := by
  unfold threshold; omega

/-- How often 35 divides out of a number until it is small, times 36, and what is left. -/
def reduce (delta : Nat) : Nat × Nat :=
  if 455 < delta then
    let (k, rest) := reduce (delta / 35)
    (k + 36, rest)
  else (0, delta)
termination_by delta
decreasing_by exact Nat.div_lt_self (by omega) (by omega)

def adapt (delta placed : Nat) (first : Bool) : Nat :=
  let d := if first then delta / 700 else delta / 2
  let (k, rest) := reduce (d + d / placed)
  k + 36 * rest / (rest + 38)

def numeral (bias position n : Nat) : List Char :=
  let t := threshold position bias
  if n < t then [digit n]
  else digit (t + (n - t) % (36 - t)) :: numeral bias (position + 36) ((n - t) / (36 - t))
termination_by n
decreasing_by
  have h := threshold_pos position bias
  exact Nat.lt_of_le_of_lt (Nat.div_le_self _ _) (by omega)

structure Encoder where
  out : List Char
  delta : Nat
  bias : Nat
  placed : Nat

def Encoder.see (basic m : Nat) (e : Encoder) (c : Char) : Encoder :=
  if c.toNat < m then { e with delta := e.delta + 1 }
  else if c.toNat = m then
    ⟨e.out ++ numeral e.bias 36 e.delta, 0, adapt e.delta (e.placed + 1) (e.placed = basic),
      e.placed + 1⟩
  else e

/-- Places the characters with the given values, `n` being the least value not yet done. -/
def Encoder.place (label : List Char) (basic : Nat) (e : Encoder) : List Nat → Nat → Encoder
  | [], _ => e
  | m :: ms, n =>
    let e := label.foldl (see basic m) { e with delta := e.delta + (m - n) * (e.placed + 1) }
    place label basic { e with delta := e.delta + 1 } ms (m + 1)

def otherValues (label : List Char) : List Nat :=
  ((label.map Char.toNat).filter (0x80 ≤ ·)).mergeSort.eraseReps

def encode (label : List Char) : List Char :=
  let basic := label.filter (·.toNat < 0x80)
  let e := Encoder.place label basic.length ⟨[], 0, 72, basic.length⟩ (otherValues label) 0x80
  basic ++ (if basic.isEmpty then [] else ['-']) ++ e.out

def numeralLimit : Nat := 0x100000000

/-- Reads one numeral: `i` plus its value, and the rest. -/
def readNumeral? (bias : Nat) (position weight i : Nat) : List Char → Option (Nat × List Char)
  | [] => none
  | c :: r =>
    match digitValue? c with
    | none => none
    | some d =>
      let t := threshold position bias
      let j := i + d * weight
      if numeralLimit ≤ j then none
      else if d < t then some (j, r)
      else if numeralLimit ≤ weight * (36 - t) then none
      else readNumeral? bias (position + 36) (weight * (36 - t)) j r

/-- Reads the numerals, at most as many as `fuel`; `out` holds the characters placed so far. -/
def insertAll? : (fuel n i bias : Nat) → List Char → List Char → Option (List Char)
  | _, _, _, _, out, [] => some out
  | 0, _, _, _, _, _ => none
  | fuel + 1, n, i, bias, out, r => do
    let (j, r) ← readNumeral? bias 36 1 i r
    let size := out.length + 1
    let m := n + j / size
    if 0x10FFFF < m ∨ (0xD800 ≤ m ∧ m < 0xE000) then none
    else
      let k := j % size
      insertAll? fuel m (k + 1) (adapt (j - i) size (i = 0))
        (out.take k ++ Char.ofNat m :: out.drop k) r

def decode? (cs : List Char) : Option (List Char) :=
  let tail := (cs.reverse.takeWhile (· != '-')).reverse
  let head := cs.take (cs.length - tail.length)
  insertAll? cs.length 0x80 0 72 head.dropLast tail

end OpsConsole.Url.Punycode
