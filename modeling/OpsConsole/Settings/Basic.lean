import OpsConsole.Access.Session
import OpsConsole.Backend.Address
import OpsConsole.Feed.Channels
import OpsConsole.Settings.Arguments

/-!
# Settings

What the console runs with. A setting comes from the command line, else from the environment, else
it has a default; a blank text counts as none. An operator who gives both a name and a password is
signed in at the start.
-/

namespace OpsConsole

structure Settings where
  backend : Url
  feed : Url
  stateDir : String
  logDir : String
  debug : Bool
  backoff : BackoffPolicy
  limits : Limits
  /-- In seconds, as the next two. -/
  requestTimeout : Nat
  healthInterval : Nat
  summaryInterval : Nat
  login : Option Credentials
  deriving DecidableEq, Inhabited

abbrev Environment : Type := String → Option String

namespace Settings

def defaultBackend : String := "http://localhost:8080"

def defaultStateDir : String := ".gproc"

def defaultLogDir : String := ".gproc/logs"

def within (dir file : String) : String :=
  if dir = "" ∨ dir.toList.getLast? = some '/' then dir ++ file else dir ++ "/" ++ file

def tokenPath (s : Settings) : String := within s.stateDir "token"

def forBackend (backend stateDir : String) : Except AddressError Settings := do
  let backend ← Backend.parse backend
  let feed ← Backend.feedAddress backend
  .ok ⟨backend, feed, stateDir, "", false, .standard, {}, 10, 30, 5, none⟩

/-- The first of these that is not blank, else the default. -/
def resolve (given : String) (inherited : Option String) (default : String) : String :=
  if !Text.allBlank given then given
  else
    match inherited with
    | some v => if Text.allBlank v then default else v
    | none => default

def saysYes (inherited : Option String) : Bool :=
  match inherited with
  | some v =>
    ["1", "true", "yes", "on"].contains (String.ofList ((Text.trimChars v.toList).map Char.toLower))
  | none => false

def credentials (a : Arguments) (env : Environment) : Option Credentials :=
  let username := resolve a.username (env "GPROC_USERNAME") ""
  let password := resolve a.password (env "GPROC_PASSWORD") ""
  if Text.allBlank username ∨ password = "" then none
  else
    let code := (a.mfaCode.map Text.trim).filter (· ≠ "")
    some ⟨username, password, code⟩

def load (a : Arguments) (env : Environment) : Except AddressError Settings := do
  let s ← forBackend (resolve a.backend (env "GPROC_BACKEND_URL") defaultBackend)
    (resolve a.stateDir (env "GPROC_STATE_DIR") defaultStateDir)
  .ok { s with
    logDir := resolve a.logDir (env "GPROC_LOG_DIR") defaultLogDir
    debug := a.debug || saysYes (env "GPROC_DEBUG")
    backoff := ⟨a.reconnectBase * Duration.nanosPerMilli, a.reconnectCap * Duration.nanosPerMilli,
      a.jitter⟩
    limits := { alerts := a.alertCapacity }
    requestTimeout := max a.requestTimeout 1
    healthInterval := max a.healthInterval 1
    summaryInterval := max a.summaryInterval 1
    login := credentials a env }

end Settings

end OpsConsole
