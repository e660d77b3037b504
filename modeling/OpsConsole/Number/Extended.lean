import OpsConsole.Number.Shortest

/-!
# Doubles with infinities

A double is finite, infinite or no number. Its text is the shortest decimal, with a point or an
exponent; reading takes any decimal and rounds it to the nearest double, and also takes the names
of the others in any case.
-/

namespace OpsConsole

inductive Extended
  | finite (x : Binary64)
  | infinite (negative : Bool)
  | undefined
  deriving DecidableEq, Inhabited

namespace Extended

def zero : Extended := finite (.zero false)

/-- Below 0.0001 and from 10^16 on a double is written with an exponent. -/
def style : Binary64.Style := ⟨-4, false⟩

def text : Extended → String
  | finite x => String.ofList (x.chars style)
  | infinite false => "inf"
  | infinite true => "-inf"
  | undefined => "NaN"

def sign : List Char → Bool × List Char
  | '-' :: r => (true, r)
  | '+' :: r => (false, r)
  | r => (false, r)

def digitsValue (ds : List Char) : Nat :=
  ds.foldl (fun n c => 10 * n + (c.toNat - '0'.toNat)) 0

def exponent? : List Char → Option Int
  | [] => some 0
  | c :: r =>
    if c = 'e' ∨ c = 'E' then
      let (negative, ds) := sign r
      if ds ≠ [] ∧ ds.all Char.isDigit then
        some (if negative then -(digitsValue ds : Int) else digitsValue ds)
      else none
    else none

/-- Digits with at most one point among them, then an exponent. -/
def decimal? (negative : Bool) (cs : List Char) : Option Extended :=
  let whole := cs.takeWhile Char.isDigit
  let rest := cs.dropWhile Char.isDigit
  let (fraction, rest) := match rest with
    | '.' :: r => (r.takeWhile Char.isDigit, r.dropWhile Char.isDigit)
    | r => ([], r)
  if whole = [] ∧ fraction = [] then none
  else
    (exponent? rest).map fun e =>
      match Binary64.ofDecimal negative (digitsValue (whole ++ fraction)) (e - fraction.length) with
      | some x => finite x
      | none => infinite negative

def parse? (s : String) : Option Extended :=
  let (negative, rest) := sign s.toList
  match String.ofList (rest.map Char.toLower) with
  | "inf" | "infinity" => some (infinite negative)
  | "nan" => some undefined
  | _ => decimal? negative rest

end Extended

end OpsConsole
