import OpsConsole.Number.Shortest

/-!
# JSON values

A whole number that fits a 64-bit word, unsigned when it is not negative and signed when it is, is
kept exactly; every other number is a double. The members of an object are kept in increasing
order of their keys, each key once: `ofMembers` brings any list of members into that form, the last
of several members under one key winning.
-/

namespace OpsConsole.Json

inductive Number
  | whole (n : Nat) (fits : n < Nat.pow 2 64)
  | negative (n : Nat) (pos : 0 < n) (fits : n ≤ Nat.pow 2 63)
  | real (x : Binary64)
  deriving DecidableEq

instance : Inhabited Number := ⟨.real default⟩

/-- The exponent is shown from 10 ^ 16 up and below 10 ^ -5, with its sign. -/
def realStyle : Binary64.Style := ⟨-5, true⟩

def Number.chars : Number → List Char
  | .whole n _ => Nat.toDigits 10 n
  | .negative n .. => '-' :: Nat.toDigits 10 n
  | .real x => x.chars realStyle

def Number.text (n : Number) : String := String.ofList n.chars

inductive Value
  | null
  | boolean (b : Bool)
  | number (n : Number)
  | text (s : String)
  | array (items : List Value)
  | object (members : List (String × Value))
  deriving Inhabited

namespace Value

mutual
def same : Value → Value → Bool
  | .null, .null => true
  | .boolean a, .boolean b => a == b
  | .number a, .number b => a == b
  | .text a, .text b => a == b
  | .array a, .array b => sameItems a b
  | .object a, .object b => sameMembers a b
  | _, _ => false
def sameItems : List Value → List Value → Bool
  | [], [] => true
  | v :: r, w :: t => same v w && sameItems r t
  | _, _ => false
def sameMembers : List (String × Value) → List (String × Value) → Bool
  | [], [] => true
  | (k, v) :: r, (l, w) :: t => k == l && same v w && sameMembers r t
  | _, _ => false
end

mutual
theorem same_iff : (a b : Value) → (same a b = true ↔ a = b)
  | .null, b => by cases b <;> simp [same]
  | .boolean _, b => by cases b <;> simp [same]
  | .number _, b => by cases b <;> simp [same]
  | .text _, b => by cases b <;> simp [same]
  | .array xs, b => by
    cases b with
    | array ys => simpa [same] using sameItems_iff xs ys
    | _ => simp [same]
  | .object xs, b => by
    cases b with
    | object ys => simpa [same] using sameMembers_iff xs ys
    | _ => simp [same]
theorem sameItems_iff : (a b : List Value) → (sameItems a b = true ↔ a = b)
  | [], b => by cases b <;> simp [sameItems]
  | v :: r, b => by
    cases b with
    | nil => simp [sameItems]
    | cons w t => simp [sameItems, same_iff v w, sameItems_iff r t]
theorem sameMembers_iff : (a b : List (String × Value)) → (sameMembers a b = true ↔ a = b)
  | [], b => by cases b <;> simp [sameMembers]
  | (k, v) :: r, b => by
    cases b with
    | nil => simp [sameMembers]
    | cons m t =>
      obtain ⟨l, w⟩ := m
      simp [sameMembers, same_iff v w, sameMembers_iff r t, and_assoc]
end

instance : DecidableEq Value := fun a b => decidable_of_iff _ (same_iff a b)

/-- Puts a member in its place unless its key is there already. -/
def placeMember (k : String) (v : Value) : List (String × Value) → List (String × Value)
  | [] => [(k, v)]
  | m :: r =>
    if k < m.1 then (k, v) :: m :: r
    else if k = m.1 then m :: r
    else m :: placeMember k v r

/-- The object with these members, of which the last under a key counts. -/
def ofMembers (members : List (String × Value)) : Value :=
  .object (members.foldr (fun m placed => placeMember m.1 m.2 placed) [])

def member? (key : String) : List (String × Value) → Option Value
  | [] => none
  | (k, v) :: r => if k = key then some v else member? key r

def get? (v : Value) (key : String) : Option Value :=
  match v with
  | .object members => member? key members
  | _ => none

def text? : Value → Option String
  | .text s => some s
  | _ => none

def boolean? : Value → Option Bool
  | .boolean b => some b
  | _ => none

def isObject : Value → Bool
  | .object _ => true
  | _ => false

/-- An identifier is written as a text or as a number, which then stands for its own text. -/
def identifier? : Value → Option String
  | .text s => some s
  | .number n => some n.text
  | _ => none

def texts? : Value → Option (List String)
  | .array items => items.mapM text?
  | _ => none

mutual
/-- The number of arrays and objects around the innermost value. -/
def depth : Value → Nat
  | .array items => depthItems items + 1
  | .object members => depthMembers members + 1
  | _ => 0
def depthItems : List Value → Nat
  | [] => 0
  | v :: r => max (depth v) (depthItems r)
def depthMembers : List (String × Value) → Nat
  | [] => 0
  | (_, v) :: r => max (depth v) (depthMembers r)
end

end Value

end OpsConsole.Json
