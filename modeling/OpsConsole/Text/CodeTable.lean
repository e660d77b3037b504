import OpsConsole.Text.Fields

/-!
# Tables of code points

A property of characters is given by a table, which is read from a text. The items of the text
stand between blanks and line breaks, in increasing order, and its numbers are hexadecimal.

In a set an item is a code point, or a range with both its ends, as in `41-5A`; with classes it has
one besides, as in `300-314=E6`. In a map an item gives forms to code points: `5A>7A` to one,
`2161>69+69,69+69+69` to one and the next. `41-5A>61` gives the code points of a range the code
points from 61 on, and `100-12E/2>101` does so for every other one.
-/

namespace OpsConsole.Text

/-! ## Search -/

section Search

variable {α : Type}

/-- How many of the entries, in increasing order of their keys, have a key of at most `n`. So many
as `found` are known to, and fewer than `2 ^ k` more can. -/
def countUpTo (entries : Array (Nat × α)) (n : Nat) : (k found : Nat) → Nat
  | 0, found => found
  | k + 1, found =>
    let next := found + Nat.pow 2 k
    match entries[next - 1]? with
    | some (key, _) => countUpTo entries n k (if key ≤ n then next else found)
    | none => countUpTo entries n k found

/-- The last of the entries whose key is at most `n`. -/
def lastUpTo? (entries : Array (Nat × α)) (n : Nat) : Option (Nat × α) :=
  match countUpTo entries n (entries.size.log2 + 1) 0 with
  | 0 => none
  | found + 1 => entries[found]?

end Search

/-! ## Sets -/

/-- A set of code points: ranges in increasing order, each with its ends. -/
structure CodeSet where
  ranges : Array (Nat × Nat)
  deriving Inhabited

def items (text : String) : List (List Char) :=
  (fields (fun c => c == ' ' || c == '\n') text.toList).filter (!·.isEmpty)

def ends (item : List Char) : Nat × Nat :=
  match cut (· == '-') item with
  | (first, none) => (hexNumber first, hexNumber first)
  | (first, some last) => (hexNumber first, hexNumber last)

namespace CodeSet

def read (text : String) : CodeSet := ⟨((items text).map ends).toArray⟩

def contains (s : CodeSet) (c : Char) : Bool :=
  match lastUpTo? s.ranges c.toNat with
  | some (_, last) => c.toNat ≤ last
  | none => false

end CodeSet

/-! ## Classes -/

structure CodeClasses where
  ranges : Array (Nat × Nat × Nat)
  deriving Inhabited

def classed (item : List Char) : Nat × Nat × Nat :=
  let (range, value) := cut (· == '=') item
  let (first, last) := ends range
  (first, last, hexNumber (value.getD []))

namespace CodeClasses

def read (text : String) : CodeClasses := ⟨((items text).map classed).toArray⟩

def find (t : CodeClasses) (c : Char) : Nat :=
  match lastUpTo? t.ranges c.toNat with
  | some (_, last, value) => if c.toNat ≤ last then value else 0
  | none => 0

end CodeClasses

/-! ## Maps -/

structure CodeMap where
  forms : Array (Nat × List Char)
  deriving Inhabited

def formsOf (item : List Char) : List (Nat × List Char) :=
  let (codes, values) := cut (· == '>') item
  let values := (fields (· == ',') (values.getD [])).map fun form =>
    (fields (· == '+') form).map fun digits => Char.ofNat (hexNumber digits)
  let (range, step) := cut (· == '/') codes
  let (first, last) := ends range
  match values with
  | [[value]] =>
    let step := step.elim 1 hexNumber
    (List.range ((last - first) / step + 1)).map fun k =>
      (first + step * k, [Char.ofNat (value.toNat + step * k)])
  | values => values.zipIdx.map fun (form, k) => (first + k, form)

namespace CodeMap

def read (text : String) : CodeMap := ⟨((items text).flatMap formsOf).toArray⟩

def find? (m : CodeMap) (c : Char) : Option (List Char) :=
  match lastUpTo? m.forms c.toNat with
  | some (code, form) => if code = c.toNat then some form else none
  | none => none

end CodeMap

end OpsConsole.Text
