import OpsConsole.Link.Connection
import OpsConsole.Url.RequestTarget

/-!
# The task of a link

A link begins with a handshake, a request to upgrade, which goes to the host of the feed and carries
the bearer token.

A task serves one link. It reports that the link is up, then each text that arrives, and at last,
once, that the link is lost and why. Nothing is reported after that, nor after the task was told to
close the link. A link whose handshake cannot be made, or is refused, is lost without ever being
up.
-/

namespace OpsConsole

inductive HandshakeError
  | target (cause : TargetError)
  | header
  deriving DecidableEq, Inhabited

namespace HandshakeError

def message : HandshakeError → String
  | target cause => "handshake: HTTP format error: " ++ cause.message
  | header => "authorization header: failed to parse header value"

end HandshakeError

/-- A request to upgrade to a link. -/
structure Handshake where
  target : String
  host : String
  authorization : String
  deriving DecidableEq, Inhabited

namespace Handshake

open Text

def method : String := "GET"

def upgrade : String := "websocket"

def version : String := "13"

/-- The part of an authority that names the host: what follows the first `@`. -/
def hostPart (place : List Char) : List Char :=
  match cut (· == '@') place with
  | (_, some host) => host
  | (host, none) => host

def request (u : Url) (token : BearerToken) : Except HandshakeError Handshake :=
  match u.requestTarget with
  | .error cause => .error (.target cause)
  | .ok (place, line) =>
    if token.sendable then
      .ok ⟨String.ofList line, String.ofList (hostPart place), token.header⟩
    else .error .header

end Handshake

inductive Message
  | text (raw : String)
  | binary (bytes : List UInt8)
  | ping
  | pong
  | close (reason : Option String)
  deriving DecidableEq, Inhabited

inductive LinkInput
  | accepted
  | refused (cause : String)
  | arrived (message : Message)
  | failed (cause : String)
  | ended
  | closeWanted
  deriving DecidableEq, Inhabited

inductive Report
  | opened
  | received (raw : String)
  | lost (reason : String)
  deriving DecidableEq, Inhabited

inductive LinkTask
  | opening
  | serving
  | done
  deriving DecidableEq, Inhabited

namespace Message

/-- The reason for which a message ends the link, if it does. -/
def ending? : Message → Option String
  | close (some reason) => some ("closed by server: " ++ reason)
  | close none => some "closed by server"
  | _ => none

end Message

namespace Report

def event (link : Nat) : Report → LinkEvent
  | opened => .opened link
  | received raw => .received link raw
  | lost _ => .lost link

end Report

namespace LinkTask

/-- A task for a link, and what it reports at once: a handshake that cannot be made loses it. -/
def start (feed : Url) (token : BearerToken) : LinkTask × List Report :=
  match Handshake.request feed token with
  | .error e => (done, [.lost e.message])
  | .ok _ => (opening, [])

def step : LinkTask → LinkInput → LinkTask × List Report
  | opening, .accepted => (serving, [.opened])
  | opening, .refused cause => (done, [.lost ("connect: " ++ cause)])
  | serving, .arrived (.text raw) => (serving, [.received raw])
  | serving, .arrived m =>
    match m.ending? with
    | some reason => (done, [.lost reason])
    | none => (serving, [])
  | serving, .failed cause => (done, [.lost cause])
  | serving, .ended => (done, [.lost "stream ended"])
  | opening, .closeWanted | serving, .closeWanted => (done, [])
  | task, _ => (task, [])

def run (task : LinkTask) (inputs : List LinkInput) : LinkTask × List Report :=
  Machine.run step task inputs

end LinkTask

end OpsConsole
