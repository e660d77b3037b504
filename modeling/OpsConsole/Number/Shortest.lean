import OpsConsole.Number.Binary64

/-!
# Shortest decimals

Of all decimals that round to a given double, `shortest` finds one with the fewest digits, and
among those the nearest to the double. The decimals that round to it fill an interval around it,
ends included when its mantissa is even. If a grid of decimals has a point in the interval, one of
the double's two neighbours on that grid lies in it, so only these are tried.
-/

namespace OpsConsole

structure Decimal where
  coefficient : Nat
  exponent : Int
  deriving DecidableEq, Inhabited

namespace Decimal

def digits (d : Decimal) : List Char := Nat.toDigits 10 d.coefficient

def leadingPower (d : Decimal) : Int := d.exponent + d.digits.length - 1

def dropZeros : Nat → Decimal → Decimal
  | 0, d => d
  | n + 1, d =>
    if d.coefficient ≠ 0 ∧ d.coefficient % 10 = 0 then
      dropZeros n ⟨d.coefficient / 10, d.exponent + 1⟩
    else d

end Decimal

namespace Binary64

/-- The interval that rounds to a double, in quarters of its last place. -/
structure Interval where
  low : Nat
  middle : Nat
  high : Nat
  closed : Bool

def interval (x : Binary64) : Interval :=
  let m := x.mantissa
  let below := if m = Nat.pow 2 52 ∧ leastExponent < x.exponent then 1 else 2
  ⟨4 * m - below, 4 * m, 4 * m + 2, m % 2 = 0⟩

/-- The nearer of the double's two neighbours among the multiples of `10 ^ k`, if it rounds to the
double. -/
def onGrid? (x : Binary64) (k : Int) : Option Decimal :=
  let i := x.interval
  let e := x.exponent - 2
  let a := Nat.pow 2 e.toNat * Nat.pow 10 (-k).toNat
  let b := Nat.pow 2 (-e).toNat * Nat.pow 10 k.toNat
  let inside (c : Nat) : Bool :=
    if i.closed then i.low * a ≤ c * b && c * b ≤ i.high * a
    else i.low * a < c * b && c * b < i.high * a
  let c := i.middle * a / b
  let down := i.middle * a - c * b
  let up := (c + 1) * b - i.middle * a
  match inside c, inside (c + 1) with
  | true, true =>
    some ⟨if down < up ∨ (down = up ∧ c % 2 = 0) then c else c + 1, k⟩
  | true, false => some ⟨c, k⟩
  | false, true => some ⟨c + 1, k⟩
  | false, false => none

/-- The first hit on the grids of `n`, `n + 1`, … digits; `e` is the power of ten of the first
digit. -/
def firstGrid (x : Binary64) (e : Int) : (tries n : Nat) → Decimal
  | 0, _ => ⟨0, 0⟩
  | tries + 1, n =>
    match x.onGrid? (e - n + 1) with
    | some d => d.dropZeros 20
    | none => firstGrid x e tries (n + 1)

def shortest (x : Binary64) : Decimal :=
  if x.isZero then ⟨0, 0⟩ else firstGrid x x.ratio.log10 18 1

/-- How a double is written: positionally while the power of ten of its first digit is at least
`positionalFrom` and below 16, else with an exponent, whose sign is shown when positive if
`plus`. -/
structure Style where
  positionalFrom : Int
  plus : Bool

/-- A point among digits, or zeros up to it. A whole number gets one zero after the point. -/
def positional (digits : List Char) (point : Int) : List Char :=
  if point ≤ 0 then
    '0' :: '.' :: (List.replicate (-point).toNat '0' ++ digits)
  else
    let n := point.toNat
    let whole := digits.take n ++ List.replicate (n - digits.length) '0'
    let rest := digits.drop n
    whole ++ '.' :: (if rest.isEmpty then ['0'] else rest)

def scientific (style : Style) (digits : List Char) (power : Int) : List Char :=
  let mark := if power < 0 then ['-'] else if style.plus then ['+'] else []
  let rest := digits.drop 1
  digits.take 1 ++ (if rest.isEmpty then [] else '.' :: rest) ++
    'e' :: (mark ++ Nat.toDigits 10 power.natAbs)

def chars (style : Style) (x : Binary64) : List Char :=
  let sign := if x.negative then ['-'] else []
  if x.isZero then sign ++ ['0', '.', '0']
  else
    let d := x.shortest
    let power := d.leadingPower
    sign ++
      (if style.positionalFrom ≤ power ∧ power < 16 then positional d.digits (power + 1)
       else scientific style d.digits power)

end Binary64

end OpsConsole
