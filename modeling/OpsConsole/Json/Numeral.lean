import OpsConsole.Json.Value

/-!
# Numerals

A numeral is a number as it is written: sign, digits before the point, digits after it, exponent.
A numeral without point and exponent that fits a 64-bit word is that whole number; any other is a
double. Its digits are gathered into a significand of 64 bits, the digits that no longer fit
only moving the exponent or, after the point, being dropped; the significand is then multiplied or
divided by a power of ten. A numeral beyond the largest double has no value; one that is too
small for any is a zero.
-/

namespace OpsConsole.Json

structure Numeral where
  negative : Bool
  whole : List Char
  fraction : List Char
  exponent : Option (Bool × List Char)
  deriving DecidableEq, Inhabited

namespace Numeral

/-- Gathers digits while the significand stays below 2 ^ 64; the rest of the digits is returned. -/
def gather : Nat → List Char → Nat × List Char
  | s, [] => (s, [])
  | s, c :: r =>
    let s' := 10 * s + (c.toNat - 48)
    if s' < Nat.pow 2 64 then gather s' r else (s, c :: r)

theorem gather_lt {s : Nat} (hs : s < Nat.pow 2 64) (ds : List Char) :
    (gather s ds).1 < Nat.pow 2 64 := by
  induction ds generalizing s with
  | nil => exact hs
  | cons c ds ih =>
    rw [gather]
    split
    · next h => exact ih h
    · exact hs

/-- A double times ten to a power, the power applied in steps of at most 308. -/
def shift : Nat → Binary64 → Int → Option Binary64
  | 0, _, _ => some (.zero false)
  | steps + 1, x, e =>
    if e.natAbs ≤ 308 then do
      let p ← Binary64.tenPower e.natAbs
      if 0 ≤ e then x.mul p else x.div p
    else if x.isZero then some x
    else if 0 ≤ e then none
    else do
      let p ← Binary64.tenPower 308
      let y ← x.div p
      shift steps y (e + 308)

/-- Two divisions by 10 ^ 308 make any significand vanish. -/
def scaled (negative : Bool) (s : Nat) (e : Int) : Option Binary64 := do
  let x ← Binary64.ofNat s
  let y ← shift 3 x e
  some { y with negative := negative }

def exponentValue (digits : List Char) : Option Nat :=
  let digits := digits.dropWhile (· == '0')
  if digits.length ≤ 10 then
    let n := Nat.ofDigitChars 10 digits 0
    if n < Nat.pow 2 31 then some n else none
  else none

def real? (n : Numeral) (s : Nat) (spare : List Char) : Option Binary64 :=
  let (s, dropped) := gather s n.fraction
  let e : Int := spare.length - (n.fraction.length - dropped.length : Nat)
  match n.exponent with
  | none => scaled n.negative s e
  | some (minus, digits) =>
    match exponentValue digits with
    | some k => scaled n.negative s (if minus then e - k else e + k)
    | none => if s ≠ 0 ∧ ¬ minus then none else some (.zero n.negative)

def value? (n : Numeral) : Option Number :=
  let s := (gather 0 n.whole).1
  let spare := (gather 0 n.whole).2
  if spare = [] ∧ n.fraction = [] ∧ n.exponent = none then
    if ¬ n.negative then some (.whole s (gather_lt (by decide) _))
    else if h : 0 < s ∧ s ≤ Nat.pow 2 63 then some (.negative s h.1 h.2)
    else (scaled true s 0).map .real
  else (n.real? s spare).map .real

end Numeral

end OpsConsole.Json
