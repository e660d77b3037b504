import OpsConsole.Log.Pattern
import OpsConsole.Settings.Arguments
import OpsConsole.Text.Alphanumeric
import OpsConsole.Text.Blank
import OpsConsole.Text.Fields

/-!
# Log filters

A filter is a list of directives. A directive names the targets that begin with some text, and may
ask for a field; it gives the least urgent level at which what it names may still speak. Of the
directives that name an entry the one with the longest target counts, then one with a field, and
of several alike the last; an entry that none names is silent. A directive with a span, or with a
value for its field, says nothing about entries outside of spans.
-/

namespace OpsConsole

inductive LogLevel
  | error
  | warn
  | info
  | debug
  | trace
  deriving DecidableEq, Inhabited

namespace LogLevel

/-- Higher is less urgent. -/
def rank : LogLevel → Nat
  | error => 1
  | warn => 2
  | info => 3
  | debug => 4
  | trace => 5

def all : List LogLevel := [error, warn, info, debug, trace]

def name : LogLevel → String
  | error => "error"
  | warn => "warn"
  | info => "info"
  | debug => "debug"
  | trace => "trace"

/-- The rank that a text stands for: a level by name or rank, or silence. -/
def rank? (s : String) : Option Nat :=
  match (Arguments.word? s).filter (· ≤ trace.rank) with
  | some n => some n
  | none =>
    let s := s.map Char.toLower
    if s = "off" then some 0 else (all.find? (·.name = s)).map rank

end LogLevel

structure LogEntry where
  level : LogLevel
  target : String
  fields : List String
  deriving DecidableEq, Inhabited

structure FieldMatch where
  name : String
  valued : Bool
  deriving DecidableEq, Inhabited

structure LogDirective where
  target : Option String
  span : Option String
  field : Option FieldMatch
  /-- The highest rank that may speak; nothing may at zero. -/
  most : Nat
  deriving DecidableEq, Inhabited

inductive DirectiveError
  | malformed
  | level
  | field (cause : PatternError)
  deriving DecidableEq, Inhabited

namespace DirectiveError

def message : DirectiveError → String
  | malformed => "invalid filter directive"
  | level =>
    "error parsing level filter: expected one of \"off\", \"error\", \"warn\", \"info\", " ++
      "\"debug\", \"trace\", or a number 0-5"
  | field cause => "invalid field filter: " ++ cause.message

end DirectiveError

namespace LogDirective

def everything : Nat := LogLevel.trace.rank

def isStart (c : Char) : Bool := Text.isAlphanumeric c || ['-', ':', '_'].contains c

/-! ## Reading

A directive is read without the blanks around it, but its parts are counted off in the text with
them. So each character that is read comes with the one that stands in its place. -/

/-- The characters that are read, each with the one that is taken for it, and what is left to take
when all are read. -/
structure Source where
  marks : List (Char × Char)
  beyond : List Char

def Source.ofChars (cs : List Char) : Source :=
  let trimmed := Text.trimChars cs
  ⟨trimmed.zip cs, cs.drop trimmed.length⟩

def Source.toEnd (s : Source) : String := String.ofList (s.marks.map (·.2) ++ s.beyond)

/-- Takes characters until one is read that ends them. -/
def Source.until (s : Source) (isEnd : Char → Bool) : String × Option Char × Source :=
  let taken := String.ofList ((s.marks.takeWhile (!isEnd ·.1)).map (·.2))
  match s.marks.dropWhile (!isEnd ·.1) with
  | [] => (taken, none, { s with marks := [] })
  | (c, _) :: r => (taken, some c, { s with marks := r })

def readLevel (s : Source) : Except DirectiveError Nat :=
  if s.toEnd = "" then .ok everything
  else
    match LogLevel.rank? s.toEnd with
    | some n => .ok n
    | none => .error .level

def valueError? (value : String) : Option PatternError :=
  if (Extended.parse? value).isSome then none else Pattern.error? value.toList

def readField (text : String) : Except DirectiveError FieldMatch :=
  match Text.fields (· == '=') text.toList with
  | name :: value :: _ =>
    match valueError? (String.ofList value) with
    | some e => .error (.field e)
    | none => .ok ⟨String.ofList name, true⟩
  | _ => .ok ⟨text, false⟩

def readEnd (target span : Option String) (field : Option FieldMatch) (s : Source) :
    Except DirectiveError LogDirective :=
  match s.marks with
  | [] => .ok ⟨target, span, field, everything⟩
  | (c, _) :: r =>
    if c = '=' then (readLevel { s with marks := r }).map (⟨target, span, field, ·⟩)
    else .error .malformed

def readBrackets (target : Option String) (s : Source) : Except DirectiveError LogDirective :=
  match s.until fun c => c == ']' || c == '{' with
  | (span, some ']', s) => readEnd target (some span) none s
  | (span, some _, s) =>
    match s.until (· == '}') with
    | (_, none, _) => .error .malformed
    | (field, some _, s) => do
      let field ← if field = "" then .error .malformed else readField field
      let span := if span = "" then none else some span
      match s.marks with
      | (']', _) :: r => readEnd target span field { s with marks := r }
      | _ => .error .malformed
  | (_, none, _) => .error .malformed

def ofWord (text : String) : LogDirective :=
  match LogLevel.rank? text with
  | some n => ⟨none, none, none, n⟩
  | none => ⟨some text, none, none, everything⟩

def parse (text : String) : Except DirectiveError LogDirective :=
  let s := Source.ofChars text.toList
  match s.marks with
  | [] => .error .malformed
  | (c, _) :: r =>
    if c = '[' then readBrackets none { s with marks := r }
    else if !isStart c then .error .malformed
    else
      match s.until fun c => c == '=' || c == '[' with
      | (_, none, _) => .ok (ofWord text)
      | (target, some '=', s) => (readLevel s).map (⟨some target, none, none, ·⟩)
      | (target, some _, s) => readBrackets (some target) s

/-! ## Meaning -/

def isStatic (d : LogDirective) : Bool := d.span.isNone && !d.field.any (·.valued)

def names (d : LogDirective) (e : LogEntry) : Bool :=
  d.isStatic && d.target.all (·.toList.isPrefixOf e.target.toList) &&
    d.field.all fun f => e.fields.contains f.name

/-- Whether a directive counts before another one that comes ahead of it and names the same. -/
def goesBefore (d e : LogDirective) : Bool :=
  let length (d : LogDirective) : Nat := d.target.elim 0 (·.length)
  if length d = length e then
    match d.field, e.field with
    | some f, some g => !(f.name < g.name)
    | none, some _ => false
    | _, none => true
  else length e < length d

end LogDirective

abbrev LogFilter : Type := List LogDirective

namespace LogFilter

def items (text : String) : List String :=
  ((Text.fields (· == ',') text.toList).filter (!·.isEmpty)).map String.ofList

def orErrors (f : LogFilter) : LogFilter :=
  if f = [] then [⟨none, none, none, LogLevel.error.rank⟩] else f

def parse (text : String) : Except DirectiveError LogFilter :=
  ((items text).mapM LogDirective.parse).map orErrors

/-- Passes over what cannot be read, and tells of it. -/
def lenient (text : String) : LogFilter × List String :=
  let read := (items text).map fun s => (s, LogDirective.parse s)
  (orErrors (read.filterMap fun r => r.2.toOption),
    read.filterMap fun (s, result) =>
      match result with
      | .ok _ => none
      | .error e => some ("ignoring \x60" ++ s ++ "\x60: " ++ e.message))

def decisive? (f : LogFilter) (e : LogEntry) : Option LogDirective :=
  f.foldl (fun best d =>
    if !d.names e then best
    else
      match best with
      | some b => if d.goesBefore b then some d else some b
      | none => some d) none

def allows (f : LogFilter) (e : LogEntry) : Bool :=
  (f.decisive? e).any fun d => e.level.rank ≤ d.most

end LogFilter

end OpsConsole
