import OpsConsole.Json.Token

/-!
# JSON documents

A document is a JSON text read without looking into its strings and numerals: members stay in the
order written and may repeat, and nothing limits the nesting. `parse` builds it from the tokens
with one state: the arrays and objects left open and what may come next. `value?` is the value of
a document, if every string and numeral in it has one and it nests within a limit. `fields?` reads
a document as a record of named fields.
-/

namespace OpsConsole.Json

inductive Document
  | null
  | boolean (b : Bool)
  | number (n : Numeral)
  | text (pieces : List Piece)
  | array (items : List Document)
  | object (members : List (List Piece × Document))
  deriving Inhabited

/-- An array or object whose next item or member value is being read. Newest first. -/
inductive Level
  | array (items : List Document)
  | object (members : List (List Piece × Document)) (key : List Piece)

inductive Expect
  | value
  | firstItem
  | afterItem (items : List Document)
  | firstKey
  | key (members : List (List Piece × Document))
  | colon (members : List (List Piece × Document)) (key : List Piece)
  | afterMember (members : List (List Piece × Document))
  | nothing (document : Document)

structure Build where
  levels : List Level
  expect : Expect

namespace Build

def deliver (d : Document) : List Level → Build
  | [] => ⟨[], .nothing d⟩
  | .array items :: levels => ⟨levels, .afterItem (d :: items)⟩
  | .object members key :: levels => ⟨levels, .afterMember ((key, d) :: members)⟩

def startValue (levels : List Level) : Token → Option Build
  | .null => some (deliver .null levels)
  | .boolean b => some (deliver (.boolean b) levels)
  | .number n => some (deliver (.number n) levels)
  | .text p => some (deliver (.text p) levels)
  | .openArray => some ⟨levels, .firstItem⟩
  | .openObject => some ⟨levels, .firstKey⟩
  | _ => none

def step (b : Build) (t : Token) : Option Build :=
  match b.expect, t with
  | .value, t => startValue b.levels t
  | .firstItem, .closeArray => some (deliver (.array []) b.levels)
  | .firstItem, t => startValue (.array [] :: b.levels) t
  | .afterItem items, .comma => some ⟨.array items :: b.levels, .value⟩
  | .afterItem items, .closeArray => some (deliver (.array items.reverse) b.levels)
  | .firstKey, .closeObject => some (deliver (.object []) b.levels)
  | .firstKey, .text k => some ⟨b.levels, .colon [] k⟩
  | .key members, .text k => some ⟨b.levels, .colon members k⟩
  | .colon members k, .colon => some ⟨.object members k :: b.levels, .value⟩
  | .afterMember members, .comma => some ⟨b.levels, .key members⟩
  | .afterMember members, .closeObject => some (deliver (.object members.reverse) b.levels)
  | _, _ => none

def run : Build → List Token → Option Build
  | b, [] => some b
  | b, t :: rest =>
    match b.step t with
    | none => none
    | some b => run b rest

def document? (b : Build) : Option Document :=
  match b.expect with
  | .nothing d => some d
  | _ => none

end Build

namespace Document

def parse (cs : List Char) : Option Document :=
  ((tokens cs).bind fun ts => Build.run ⟨[], .value⟩ ts).bind Build.document?

def parseBytes (bytes : List UInt8) : Option Document :=
  ((byteTokens bytes).bind fun ts => Build.run ⟨[], .value⟩ ts).bind Build.document?

theorem parseBytes_encode (text : String) :
    parseBytes (Text.Utf8.encode text) = parse text.toList := by
  rw [parseBytes, byteTokens_encode, parse]

mutual
/-- The value of a document that nests at most `levels` deep. -/
def value? (levels : Nat) : Document → Option Value
  | .null => some .null
  | .boolean b => some (.boolean b)
  | .number n => n.value?.map .number
  | .text p => (Piece.text? p).map .text
  | .array items =>
    match levels with
    | 0 => none
    | levels + 1 => itemsOnto levels [] items
  | .object members =>
    match levels with
    | 0 => none
    | levels + 1 => membersOnto levels [] members
def itemsOnto (levels : Nat) (out : List Value) : List Document → Option Value
  | [] => some (.array out.reverse)
  | d :: r =>
    match value? levels d with
    | none => none
    | some v => itemsOnto levels (v :: out) r
def membersOnto (levels : Nat) (out : List (String × Value)) :
    List (List Piece × Document) → Option Value
  | [] => some (.ofMembers out.reverse)
  | (k, d) :: r =>
    match Piece.text? k, value? levels d with
    | some k, some v => membersOnto levels ((k, v) :: out) r
    | _, _ => none
end

def text? : Document → Option String
  | .text p => Piece.text? p
  | _ => none

def namedMembers? (members : List (List Piece × Document)) : Option (List (String × Document)) :=
  members.mapM fun m => (Piece.text? m.1).map fun k => (k, m.2)

/-- The only member under a name, if any; `none` when there are several. -/
def onlyMember? (members : List (String × Document)) (name : String) :
    Option (Option Document) :=
  match members.filter (·.1 = name) with
  | [] => some none
  | [m] => some (some m.2)
  | _ => none

/-- A record is written as an object, in which members of other names are skipped and a field must
not repeat, or as an array of its fields in order, from which fields at the end may be missing. -/
def fields? (names : List String) : Document → Option (List (Option Document))
  | .object members => (namedMembers? members).bind fun ms => names.mapM (onlyMember? ms)
  | .array items =>
    if items.length ≤ names.length then
      some (items.map some ++ List.replicate (names.length - items.length) none)
    else none
  | _ => none

end Document

namespace Value

/-- A value read as a record, by the same rule: an object has each member once already. -/
def fields? (names : List String) : Value → Option (List (Option Value))
  | .object members => some (names.map fun name => member? name members)
  | .array items =>
    if items.length ≤ names.length then
      some (items.map some ++ List.replicate (names.length - items.length) none)
    else none
  | _ => none

end Value

def nestingLimit : Nat := 127

def parse (text : String) : Option Value :=
  (Document.parse text.toList).bind (Document.value? nestingLimit)

end OpsConsole.Json
