import OpsConsole.Access.Session

/-!
# Routes

The pages of the console and who may visit them. A path is looked up without its query, its
fragment and its trailing slashes. A signed-in visitor of the landing page is sent to the
dashboard; a page that needs a session sends a visitor without one to the login page; a page that
needs a permission sends a visitor without it to the landing page; any other path is open.
-/

namespace OpsConsole

structure Route where
  path : String
  name : String
  needsSession : Bool
  /-- A resource and an action with a colon between them, checked on every scope. -/
  permission : Option String
  deriving DecidableEq, Inhabited

inductive Decision
  | allow
  | toLogin
  | toLanding
  | toDashboard
  deriving DecidableEq, Inhabited

namespace Route

def landingPath : String := "/"
def loginPath : String := "/login"
def dashboardPath : String := "/dashboard"

def opened (path name : String) : Route := ⟨path, name, false, none⟩

def signedIn (path name : String) : Route := ⟨path, name, true, none⟩

def guarded (path name permission : String) : Route := ⟨path, name, true, some permission⟩

def all : List Route :=
  [opened landingPath "Landing",
    opened loginPath "Login",
    signedIn dashboardPath "Dashboard",
    guarded "/processes" "ProcessManagement" "process:read",
    guarded "/cluster" "ClusterManagement" "cluster:read",
    guarded "/monitoring" "Monitoring" "metrics:read",
    guarded "/deployments" "Deployments" "deployment:read",
    guarded "/scheduler" "Scheduler" "scheduler:read",
    guarded "/security" "Security" "user:read",
    guarded "/logs" "LogsViewer" "process:read",
    signedIn "/settings" "Settings",
    guarded "/probes" "LanguageProbes" "process:read",
    guarded "/templates" "Templates" "template:read",
    guarded "/audit" "AuditLogs" "audit:read",
    guarded "/backup" "BackupRestore" "backup:read",
    guarded "/secrets" "SecretsManagement" "secrets:read"]

/-- The path without query, fragment and trailing slashes. -/
def normalChars (cs : List Char) : List Char :=
  match Text.dropTail (· == '/') (cs.takeWhile fun c => c != '?' && c != '#') with
  | [] => ['/']
  | cs => cs

def normalPath (path : String) : String := String.ofList (normalChars path.toList)

def find? (path : String) : Option Route :=
  all.find? (·.path = normalPath path)

def permits (r : Route) (session : Option Session) : Bool :=
  match r.permission with
  | none => true
  | some text => (Claim.parse? text).any (satisfies session)

end Route

namespace Decision

def target? : Decision → Option String
  | allow => none
  | toLogin => some Route.loginPath
  | toLanding => some Route.landingPath
  | toDashboard => some Route.dashboardPath

end Decision

def visit (path : String) (session : Option Session) : Decision :=
  if Route.normalPath path = Route.landingPath ∧ session.isSome then .toDashboard
  else
    match Route.find? (Route.normalPath path) with
    | none => .allow
    | some r =>
      if r.needsSession ∧ session.isNone then .toLogin
      else if r.permits session then .allow
      else .toLanding

end OpsConsole
