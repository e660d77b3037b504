import OpsConsole.Text.Alphanumeric
import OpsConsole.Text.Fields

/-!
# Patterns

A filter may ask for the value of a field by a regular expression. Only whether one is well formed
matters here: groups and classes are closed, what is repeated is there, escapes and ranges have a
meaning. Nothing is known of the properties of characters beyond ASCII, so sets such as `\d`, and
reading without regard to case, have a meaning only where bytes are read. Elsewhere a boundary of
words is well formed, but not to be had.
-/

namespace OpsConsole

inductive PatternError
  | malformed
  | wordBoundary
  deriving DecidableEq, Inhabited

namespace PatternError

def message : PatternError → String
  | malformed => "error building NFA"
  | wordBoundary =>
    "unsupported regex feature for DFAs: cannot build DFAs for regexes with Unicode word " ++
      "boundaries; switch to ASCII word boundaries, or heuristically enable Unicode word " ++
      "boundaries or use a different regex engine"

end PatternError

namespace Pattern

/-! ## Modes -/

structure Modes where
  caseless : Bool := false
  /-- Whether bytes are read and not characters. -/
  bytes : Bool := false
  deriving DecidableEq, Inhabited

namespace Modes

def apply (m : Modes) (flags : List Char) : Modes :=
  let (given, taken) := Text.cut (· == '-') flags
  let taken := taken.getD []
  ⟨!taken.contains 'i' && (m.caseless || given.contains 'i'),
    taken.contains 'u' || (m.bytes && !given.contains 'u')⟩

def hasLetters (m : Modes) : Bool := !m.caseless || m.bytes

/-- Whether everything that is not in a set has a meaning. A byte beyond ASCII is no text. -/
def hasOthers (m : Modes) : Bool := !m.bytes

def hasCode (m : Modes) (code : Nat) : Bool := m.hasOthers || code < 0x80

end Modes

/-! ## Escapes -/

inductive Escape
  | literal (code : Nat)
  | set
  | others
  | anchor
  | wordBoundary
  deriving DecidableEq, Inhabited

def code? (digits : Nat) (cs : List Char) : Option (Escape × List Char) :=
  let ds := cs.take digits
  let n := Text.hexNumber ds
  if ds.length = digits ∧ ds.all (fun c => (Text.hexValue? c).isSome) ∧ n.isValidChar then
    some (.literal n, cs.drop digits)
  else none

def controls : List (Char × Nat) :=
  [('a', 7), ('t', 9), ('n', 10), ('v', 11), ('f', 12), ('r', 13)]

def escape? : List Char → Option (Escape × List Char)
  | [] => none
  | c :: r =>
    if ['d', 's', 'w'].contains c then some (.set, r)
    else if ['D', 'S', 'W'].contains c then some (.others, r)
    else if ['b', 'B', '<', '>'].contains c then some (.wordBoundary, r)
    else if ['A', 'z'].contains c then some (.anchor, r)
    else
      match c, r with
      | 'x', r => code? 2 r
      | 'u', r => code? 4 r
      | 'U', r => code? 8 r
      | c, r =>
        match controls.lookup c with
        | some n => some (.literal n, r)
        | none => if c.toNat < 0x80 ∧ !c.isAlphanum then some (.literal c.toNat, r) else none

/-! ## Classes -/

def member? (m : Modes) : List Char → Option (Option Nat × List Char)
  | [] => none
  | '\\' :: r =>
    match escape? r with
    | some (.literal n, r) => if m.hasCode n then some (some n, r) else none
    | some (.set, r) => if m.bytes then some (none, r) else none
    | _ => none
  | c :: r => if m.hasCode c.toNat then some (some c.toNat, r) else none

def named : List String :=
  ["alnum", "alpha", "ascii", "blank", "cntrl", "digit", "graph", "lower", "print", "punct",
    "space", "upper", "word", "xdigit"]

/-- What follows the name of a class, as in `[:alpha:]`, behind its bracket. -/
def afterName? : List Char → Option (List Char)
  | ':' :: r =>
    let r := if r.head? = some '^' then r.tail else r
    if named.contains (String.ofList (r.takeWhile (· != ':'))) then
      match r.dropWhile (· != ':') with
      | ':' :: ']' :: r => some r
      | _ => none
    else none
  | _ => none

/-- What follows the beginning of a class, where hyphens and then a bracket stand for themselves. -/
def afterStart? (m : Modes) (cs : List Char) : Option (List Char) :=
  let negated := cs.head? = some '^'
  if negated ∧ !m.hasOthers then none
  else
    match if negated then cs.tail else cs with
    | ']' :: r => some r
    | cs => some (cs.dropWhile (· == '-'))

/-- What follows so many nested classes. -/
def afterClass? (m : Modes) : (fuel depth : Nat) → List Char → Option (List Char)
  | 0, _, _ => none
  | _, 0, cs => some cs
  | fuel + 1, depth + 1, cs =>
    match cs with
    | [] => none
    | ']' :: r => afterClass? m fuel depth r
    | '&' :: '&' :: r | '-' :: '-' :: r | '~' :: '~' :: r => afterClass? m fuel (depth + 1) r
    | '[' :: r =>
      match afterName? r with
      | some r => afterClass? m fuel (depth + 1) r
      | none => (afterStart? m r).bind (afterClass? m fuel (depth + 2))
    | cs =>
      match member? m cs with
      | none => none
      | some (first, '-' :: d :: r) =>
        if d = ']' ∨ d = '-' then afterClass? m fuel (depth + 1) ('-' :: d :: r)
        else
          match first, member? m (d :: r) with
          | some a, some (some b, r) => if a ≤ b then afterClass? m fuel (depth + 1) r else none
          | _, _ => none
      | some (_, r) => afterClass? m fuel (depth + 1) r

/-! ## Groups -/

inductive GroupStart
  | group (flags rest : List Char)
  | named (name rest : List Char)
  | flags (flags rest : List Char)

def isName : List Char → Bool
  | [] => false
  | c :: r =>
    (c == '_' || (Text.isAlphanumeric c && !c.isDigit)) &&
      r.all fun c => ['_', '.', '[', ']'].contains c || Text.isAlphanumeric c

def namedGroup? (cs : List Char) : Option GroupStart :=
  let name := cs.takeWhile (· != '>')
  match cs.dropWhile (· != '>') with
  | _ :: r => if isName name then some (.named name r) else none
  | [] => none

/-- Each flag is given once, and one follows the sign that takes flags away. -/
def areFlags (fs : List Char) : Bool :=
  fs.all ['i', 'm', 's', 'U', 'u', 'R', 'x', '-'].contains && fs.eraseDups == fs &&
    fs.getLast? != some '-'

def groupStart? : List Char → Option GroupStart
  | '?' :: 'P' :: '<' :: r | '?' :: '<' :: r => namedGroup? r
  | '?' :: r =>
    let isEnd (c : Char) : Bool := c == ':' || c == ')'
    let fs := r.takeWhile (!isEnd ·)
    if !areFlags fs then none
    else
      match r.dropWhile (!isEnd ·) with
      | ':' :: r => some (.group fs r)
      | _ :: r => if fs = [] then none else some (.flags fs r)
      | [] => none
  | r => some (.group [] r)

/-! ## Patterns -/

structure Seen where
  modes : Modes := {}
  /-- For each group that is not closed, the modes behind it. -/
  outer : List Modes := []
  names : List (List Char) := []
  /-- Whether something is there that may be repeated. -/
  repeatable : Bool := false
  wordBoundary : Bool := false

def Seen.opened (s : Seen) (flags : List Char) : Seen :=
  { s with modes := s.modes.apply flags, outer := s.modes :: s.outer, repeatable := false }

def Seen.allows (s : Seen) : Escape → Bool
  | .literal code => s.modes.hasLetters && s.modes.hasCode code
  | .set => s.modes.bytes
  | .others => false
  | .anchor | .wordBoundary => true

def read? : (fuel : Nat) → Seen → List Char → Option Seen
  | 0, _, _ => none
  | _, s, [] => if s.outer = [] then some s else none
  | fuel + 1, s, c :: r =>
    let item := { s with repeatable := true }
    let fresh := { s with repeatable := false }
    match c with
    | '(' =>
      match groupStart? r with
      | some (.group flags r) => read? fuel (s.opened flags) r
      | some (.named name r) =>
        if s.names.contains name then none
        else read? fuel { s.opened [] with names := name :: s.names } r
      | some (.flags flags r) => read? fuel { fresh with modes := s.modes.apply flags } r
      | none => none
    | ')' =>
      match s.outer with
      | [] => none
      | modes :: outer => read? fuel { item with modes, outer } r
    | '|' => read? fuel fresh r
    | '[' =>
      if !s.modes.hasLetters then none
      else
        ((afterStart? s.modes r).bind (afterClass? s.modes (r.length + 1) 1)).bind
          (read? fuel item)
    | '?' | '*' | '+' =>
      if !s.repeatable then none
      else read? fuel item (if r.head? = some '?' then r.tail else r)
    | '{' => none
    | '.' => if s.modes.hasOthers then read? fuel item r else none
    | '^' | '$' => read? fuel item r
    | '\\' =>
      match escape? r with
      | none => none
      | some (e, r) =>
        if !s.allows e then none
        else
          let isBoundary := e = .wordBoundary ∧ !s.modes.bytes
          read? fuel { item with wordBoundary := s.wordBoundary || isBoundary } r
    | _ => if s.modes.hasLetters then read? fuel item r else none

def error? (cs : List Char) : Option PatternError :=
  match read? (cs.length + 1) {} cs with
  | none => some .malformed
  | some s => if s.wordBoundary then some .wordBoundary else none

end Pattern

end OpsConsole
