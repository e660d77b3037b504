/-!
# Doubles

A finite double is `± mantissa · 2 ^ exponent`. Arithmetic is exact and then rounded once to the
nearest double, a tie going to the even mantissa. An operation gives `none` when the result is
beyond the largest double.
-/

namespace OpsConsole

/-- The quotient rounded to the nearest whole number, a tie going to the even one. -/
def roundDiv (num den : Nat) : Nat :=
  let q := num / den
  let r := num % den
  if 2 * r < den ∨ (2 * r = den ∧ q % 2 = 0) then q else q + 1

structure Ratio where
  num : Nat
  den : Nat

namespace Ratio

def ofScaled (m : Nat) (e : Int) : Ratio :=
  if 0 ≤ e then ⟨m * Nat.pow 2 e.toNat, 1⟩ else ⟨m, Nat.pow 2 (-e).toNat⟩

def ofDecimal (m : Nat) (e : Int) : Ratio :=
  if 0 ≤ e then ⟨m * Nat.pow 10 e.toNat, 1⟩ else ⟨m, Nat.pow 10 (-e).toNat⟩

def mul (a b : Ratio) : Ratio := ⟨a.num * b.num, a.den * b.den⟩

def div (a b : Ratio) : Ratio := ⟨a.num * b.den, a.den * b.num⟩

def add (a b : Ratio) : Ratio := ⟨a.num * b.den + b.num * a.den, a.den * b.den⟩

def le (a b : Ratio) : Bool := a.num * b.den ≤ b.num * a.den

/-- The largest `e` with `2 ^ e ≤ a`. -/
def log2 (a : Ratio) : Int :=
  let e := (a.num.log2 : Int) - (a.den.log2 : Int)
  if (ofScaled 1 e).le a then e else e - 1

def log10 (a : Ratio) : Int :=
  let e := Int.fdiv (a.log2 * 30103) 100000
  if (ofDecimal 1 (e + 1)).le a then e + 1
  else if (ofDecimal 1 e).le a then e
  else e - 1

def roundTo (a : Ratio) (e : Int) : Nat :=
  if 0 ≤ e then roundDiv a.num (a.den * Nat.pow 2 e.toNat)
  else roundDiv (a.num * Nat.pow 2 (-e).toNat) a.den

end Ratio

structure Binary64 where
  negative : Bool
  mantissa : Nat
  exponent : Int
  deriving DecidableEq, Inhabited

namespace Binary64

def leastExponent : Int := -1074

def greatestExponent : Int := 971

def zero (negative : Bool) : Binary64 := ⟨negative, 0, leastExponent⟩

/-- The double nearest to a fraction, unless that is beyond the largest double. -/
def ofRatio (negative : Bool) (a : Ratio) : Option Binary64 :=
  if a.num = 0 then some (zero negative)
  else
    let e := max (a.log2 - 52) leastExponent
    let m := a.roundTo e
    let (m, e) := if m = Nat.pow 2 53 then (Nat.pow 2 52, e + 1) else (m, e)
    if e ≤ greatestExponent then some ⟨negative, m, e⟩ else none

def ratio (x : Binary64) : Ratio := Ratio.ofScaled x.mantissa x.exponent

def isZero (x : Binary64) : Bool := x.mantissa == 0

def ofNat (n : Nat) : Option Binary64 := ofRatio false ⟨n, 1⟩

def mul (x y : Binary64) : Option Binary64 :=
  ofRatio (x.negative != y.negative) (x.ratio.mul y.ratio)

/-- Division by a double that is not zero. -/
def div (x y : Binary64) : Option Binary64 :=
  ofRatio (x.negative != y.negative) (x.ratio.div y.ratio)

def addAbs (x y : Binary64) : Option Binary64 :=
  ofRatio false (x.ratio.add y.ratio)

/-- The double nearest to `± digits · 10 ^ exponent`. Exponents far outside the range are decided
without computing the power. -/
def ofDecimal (negative : Bool) (digits : Nat) (exponent : Int) : Option Binary64 :=
  let magnitude := exponent + (Nat.toDigits 10 digits).length
  if digits = 0 ∨ magnitude < -330 then some (zero negative)
  else if 330 < magnitude then none
  else ofRatio negative (Ratio.ofDecimal digits exponent)

def tenPower (k : Nat) : Option Binary64 := ofRatio false ⟨Nat.pow 10 k, 1⟩

end Binary64

end OpsConsole
