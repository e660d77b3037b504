import OpsConsole.Console
import OpsConsole.Log.Filter
import OpsConsole.Settings.Basic

/-!
# The program

The program reads its arguments and settings, resumes the saved session or signs in, and then keeps
the console going until it is stopped. What it does is logged, as far as the filter lets it through,
to the output and to a file in the directory for logs.

A run that cannot go on ends with a report, which says what failed and lists the causes, each
behind the one that it caused. A single cause is set off by four blanks; several are numbered from
zero. The further lines of a cause stand below its first.
-/

namespace OpsConsole

structure FailureReport where
  summary : String
  causes : List String
  deriving DecidableEq, Inhabited

namespace FailureReport

def lines (s : String) : List String :=
  (Text.fields (· == '\n') s.toList).map String.ofList

def padded (width : Nat) (s : String) : String :=
  String.ofList (List.replicate (width - s.length) ' ') ++ s

def blanks (n : Nat) : String := padded n ""

/-- A cause with what stands before its first line, and before the others. -/
def cause (first others text : String) : String :=
  "\n" ++ first ++ String.intercalate ("\n" ++ others) (lines text)

def numbered (n : Nat) : List String → String
  | [] => ""
  | c :: rest => cause (padded 5 n.repr ++ ": ") (blanks 7) c ++ numbered (n + 1) rest

def render (r : FailureReport) : String :=
  "Error: " ++ r.summary ++
    match r.causes with
    | [] => ""
    | [c] => "\n\nCaused by:" ++ cause (blanks 4) (blanks 4) c
    | causes => "\n\nCaused by:" ++ numbered 0 causes

end FailureReport

inductive ProgramEvent
  | consoleStart
  | sessionEstablished
  | sessionResumeFailed
  | login
  | tokenPersistFailed
  | consoleStop
  deriving DecidableEq, Inhabited

namespace ProgramEvent

def name : ProgramEvent → String
  | consoleStart => "console_start"
  | sessionEstablished => "session_established"
  | sessionResumeFailed => "session_resume_failed"
  | login => "login"
  | tokenPersistFailed => "token_persist_failed"
  | consoleStop => "console_stop"

def level : ProgramEvent → LogLevel
  | sessionResumeFailed | tokenPersistFailed => .warn
  | _ => .info

def target : ProgramEvent → String
  | consoleStart | login | consoleStop => "gproc_console"
  | _ => "gproc_console::session_store"

def details : ProgramEvent → List String
  | consoleStart => ["backend", "ws", "state_dir"]
  | sessionEstablished => ["user_id"]
  | sessionResumeFailed | tokenPersistFailed => ["error"]
  | login => ["user"]
  | consoleStop => []

def entry (e : ProgramEvent) : LogEntry := ⟨e.level, e.target, "event" :: e.details⟩

end ProgramEvent

structure Surroundings where
  environment : Environment
  files : Files
  transport : Transport

inductive Ending
  | usage (cause : UsageError)
  | failed (report : FailureReport)
  | stopped
  deriving DecidableEq, Inhabited

namespace Ending

def code : Ending → Nat
  | usage .helpWanted | stopped => 0
  | usage _ => 2
  | failed _ => 1

end Ending

structure Run where
  /-- What was said beside the log, line by line. -/
  notices : List String
  /-- What the log shows. -/
  events : List ProgramEvent
  requests : List Request
  files : Files
  ending : Ending

namespace Run

def only (files : Files) (ending : Ending) : Run := ⟨[], [], [], files, ending⟩

def helpLines : List String :=
  (OptionName.all.map fun o => "--" ++ o.name ++ " <value>") ++ ["--debug", "--help"]

def helpShown (r : Run) : List String := if r.ending = .usage .helpWanted then helpLines else []

def errorLines (r : Run) : List String :=
  r.notices ++ match r.ending with
    | .failed report => [report.render]
    | .usage .helpWanted | .stopped => []
    | .usage cause => ["error: " ++ cause.message]

end Run

namespace Program

/-- The filter that the environment or the settings ask for, and what is said about it. -/
def filter (env : Environment) (debug : Bool) : LogFilter × List String :=
  match (env "RUST_LOG").map LogFilter.parse with
  | some (.ok f) => (f, [])
  | _ =>
    LogFilter.lenient ((env "GPROC_LOG_LEVEL").getD (if debug then "debug" else "info"))

def logFileName : String := "gproc-console.log"

/-- Opens the log file: its path, or what is said if it cannot be opened. A blank directory asks for
no file. -/
def openLog (dir : String) (f : Files) : Files × Except String (Option String) :=
  if Text.allBlank dir then (f, .ok none)
  else
    let failed (e : FileError) : Except String (Option String) :=
      .error ("log_file_error: " ++ e.message)
    match f.makeDirectories dir with
    | (f, some e) => (f, failed e)
    | (f, none) =>
      let path := Settings.within dir logFileName
      match f.write path [] with
      | .ok f => (f, .ok (some path))
      | .error e => (f, failed e)

def logText (events : List ProgramEvent) : String :=
  String.join (events.map fun e => e.name ++ "\n")

structure Entrance where
  events : List ProgramEvent
  requests : List Request
  files : Files
  failure : Option FailureReport

def noSession : FailureReport :=
  ⟨"no saved session; pass --username and --password to sign in", []⟩

def codeMissing : FailureReport := ⟨"multi-factor code required; pass --mfa-code", []⟩

def unreadableSession (e : TokenFileError) : FailureReport :=
  ⟨"reading persisted session", [e.message, e.cause.message]⟩

def beginning (a : Admission) : List ProgramEvent :=
  (match a.saved with
    | .ok _ => []
    | .error _ => [.tokenPersistFailed]) ++ [.sessionEstablished]

variable {o : LinkOptions}

def signIn (c : Console o) (transport : Transport) : Option Credentials → Entrance
  | none => ⟨[], [], c.store.files, some noSession⟩
  | some credentials =>
    let x := c.signIn transport credentials
    let ((c, _), result) := x.result
    let entrance (events : List ProgramEvent) (failure : Option FailureReport) : Entrance :=
      ⟨events, x.requests, c.store.files, failure⟩
    match result with
    | .ok a => entrance (beginning a ++ [.login]) none
    | .error .codeRequired => entrance [] (some codeMissing)
    | .error e => entrance [] (some ⟨"login failed", [e.message]⟩)

def enter (c : Console o) (transport : Transport) (login : Option Credentials) : Entrance :=
  let x := c.resume transport
  let ((c, _), result) := x.result
  let go (events : List ProgramEvent) : Entrance :=
    let e := signIn c transport login
    { e with events := events ++ e.events, requests := x.requests ++ e.requests }
  match result with
  | .unreadable e => ⟨[], x.requests, c.store.files, some (unreadableSession e)⟩
  | .nothingSaved => go []
  | .refused _ (.error e) =>
    ⟨[.sessionResumeFailed], x.requests, c.store.files, some (unreadableSession e)⟩
  | .refused _ (.ok _) => go [.sessionResumeFailed]
  | .resumed a => ⟨beginning a, x.requests, c.store.files, none⟩

def writeLog (f : Files) (path : Option String) (text : String) : Files :=
  match path.map fun path => f.write path (Text.Utf8.encode text) with
  | some (.ok f) => f
  | _ => f

/-- The run with these settings, stopped once it is under way. -/
def runWith (s : Settings) (around : Surroundings) : Run :=
  let (shown, ignored) := filter around.environment s.debug
  let (files, log) := openLog s.logDir around.files
  let path := match log with
    | .ok path => path
    | .error _ => none
  let options : LinkOptions := ⟨s.backoff.schedule, fun _ => 0, s.limits, Frame.defaultLimit⟩
  let console : Console options := .start s.backend (.start ⟨s.tokenPath⟩ files)
  let e := enter console around.transport s.login
  let all : List ProgramEvent :=
    .consoleStart :: e.events ++ if e.failure.isNone then [.consoleStop] else []
  let events := all.filter (shown.allows ·.entry)
  let notices := ignored ++ match log with
    | .ok _ => []
    | .error notice => [notice]
  ⟨notices, events, e.requests, writeLog e.files path (logText events), match e.failure with
    | some report => .failed report
    | none => .stopped⟩

def configure (args : List String) (env : Environment) : Except Ending Settings :=
  match Arguments.parse args with
  | .error e => .error (.usage e)
  | .ok a => (Settings.load a env).mapError fun e => .failed ⟨"invalid configuration", [e.message]⟩

def run (args : List String) (around : Surroundings) : Run :=
  match configure args around.environment with
  | .error ending => .only around.files ending
  | .ok s => runWith s around

end Program

end OpsConsole
