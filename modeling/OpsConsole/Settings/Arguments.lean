import OpsConsole.Link.Backoff

/-!
# Arguments

An argument that begins with two hyphens names an option; its value follows an equals sign or is
the next argument, which then must not begin with a hyphen. Two hyphens alone end the options, and
no other argument is expected. A value is looked at only when the next known option, or the end,
comes; so what is unknown is reported before a bad value in front of it.
-/

namespace OpsConsole

inductive OptionName
  | backend
  | stateDir
  | logDir
  | reconnectBase
  | reconnectCap
  | jitter
  | requestTimeout
  | healthInterval
  | summaryInterval
  | alertCapacity
  | username
  | password
  | mfaCode
  deriving DecidableEq, Inhabited

inductive UsageError
  | unknownArgument
  | repeated
  | missingValue
  | unexpectedValue
  | invalidValue
  | helpWanted
  deriving DecidableEq, Inhabited

namespace UsageError

def message : UsageError → String
  | unknownArgument => "unexpected argument"
  | repeated => "an option was given more than once"
  | missingValue => "an option lacks its value"
  | unexpectedValue => "a flag takes no value"
  | invalidValue => "a value is no number in range"
  | helpWanted => "help was asked for"

end UsageError

namespace OptionName

def all : List OptionName :=
  [backend, stateDir, logDir, reconnectBase, reconnectCap, jitter, requestTimeout, healthInterval,
    summaryInterval, alertCapacity, username, password, mfaCode]

def name : OptionName → String
  | backend => "backend"
  | stateDir => "state-dir"
  | logDir => "log-dir"
  | reconnectBase => "reconnect-base-ms"
  | reconnectCap => "reconnect-cap-ms"
  | jitter => "jitter"
  | requestTimeout => "request-timeout-secs"
  | healthInterval => "health-interval-secs"
  | summaryInterval => "summary-interval-secs"
  | alertCapacity => "alert-capacity"
  | username => "username"
  | password => "password"
  | mfaCode => "mfa-code"

def ofName? (name : String) : Option OptionName := all.find? (·.name = name)

end OptionName

structure Arguments where
  backend : String := ""
  stateDir : String := ""
  logDir : String := ""
  debug : Bool := false
  /-- In milliseconds, as the next one. -/
  reconnectBase : Nat := 1000
  reconnectCap : Nat := 10000
  jitter : Extended := BackoffPolicy.standard.jitter
  /-- In seconds, as the next two. -/
  requestTimeout : Nat := 10
  healthInterval : Nat := 30
  summaryInterval : Nat := 5
  alertCapacity : Nat := 500
  username : String := ""
  password : String := ""
  mfaCode : Option String := none
  deriving DecidableEq, Inhabited

namespace Arguments

def largestWord : Nat := 0xFFFFFFFFFFFFFFFF

/-- A whole number of at most 64 bits; a plus sign may stand before it. -/
def word? (s : String) : Option Nat :=
  let ds := match s.toList with
    | '+' :: r => r
    | r => r
  let n := Extended.digitsValue ds
  if ds ≠ [] ∧ ds.all Char.isDigit ∧ n ≤ largestWord then some n else none

def set? (a : Arguments) (o : OptionName) (value : String) : Option Arguments :=
  match o with
  | .backend => some { a with backend := value }
  | .stateDir => some { a with stateDir := value }
  | .logDir => some { a with logDir := value }
  | .reconnectBase => (word? value).map fun n => { a with reconnectBase := n }
  | .reconnectCap => (word? value).map fun n => { a with reconnectCap := n }
  | .jitter => (Extended.parse? value).map fun x => { a with jitter := x }
  | .requestTimeout => (word? value).map fun n => { a with requestTimeout := n }
  | .healthInterval => (word? value).map fun n => { a with healthInterval := n }
  | .summaryInterval => (word? value).map fun n => { a with summaryInterval := n }
  | .alertCapacity => (word? value).map fun n => { a with alertCapacity := n }
  | .username => some { a with username := value }
  | .password => some { a with password := value }
  | .mfaCode => some { a with mfaCode := some value }

structure Reading where
  arguments : Arguments
  given : List OptionName
  /-- The option whose value is still to be looked at, if it has come. -/
  pending : Option (OptionName × Option String)

namespace Reading

def start : Reading := ⟨{}, [], none⟩

def give (r : Reading) (o : OptionName) (value : String) : Except UsageError Reading :=
  if o ∈ r.given then .error .repeated
  else
    match r.arguments.set? o value with
    | none => .error .invalidValue
    | some arguments => .ok ⟨arguments, o :: r.given, none⟩

def settle (r : Reading) : Except UsageError Reading :=
  match r.pending with
  | none => .ok r
  | some (_, none) => .error .missingValue
  | some (o, some value) => { r with pending := none }.give o value

def long (r : Reading) (name : String) (value : Option String) : Except UsageError Reading :=
  match OptionName.ofName? name, value with
  | some o, none => do
    let r ← r.settle
    .ok { r with pending := some (o, none) }
  | some o, some value => do
    let r ← r.settle
    r.give o value
  | none, value =>
    if name = "debug" ∨ name = "help" then
      match value with
      | some _ => .error .unexpectedValue
      | none => do
        let r ← r.settle
        if name = "help" then .error .helpWanted
        else if r.arguments.debug then .error .repeated
        else .ok { r with arguments := { r.arguments with debug := true } }
    else .error .unknownArgument

def short (r : Reading) : List Char → Except UsageError Reading
  | 'h' :: _ => do
    let _ ← r.settle
    .error .helpWanted
  | _ => .error .unknownArgument

/-- Any other argument is the value that is due, if one is. -/
def plain (r : Reading) (value : String) : Except UsageError Reading :=
  match r.pending with
  | some (o, none) => .ok { r with pending := some (o, some value) }
  | _ => .error .unknownArgument

def cutValue : List Char → List Char × Option (List Char)
  | [] => ([], none)
  | '=' :: r => ([], some r)
  | c :: r =>
    let (name, value) := cutValue r
    (c :: name, value)

def run (r : Reading) : List String → Except UsageError Reading
  | [] => r.settle
  | a :: rest =>
    match a.toList with
    | ['-', '-'] => if rest = [] then r.settle else .error .unknownArgument
    | '-' :: '-' :: cs => do
      let (name, value) := cutValue cs
      let r ← r.long (String.ofList name) (value.map String.ofList)
      r.run rest
    | '-' :: c :: cs => do
      let r ← r.short (c :: cs)
      r.run rest
    | _ => do
      let r ← r.plain a
      r.run rest

end Reading

def parse (args : List String) : Except UsageError Arguments :=
  (Reading.start.run args).map (·.arguments)

end Arguments

end OpsConsole
