import OpsConsole.Backend.Action
import OpsConsole.Backend.Address
import OpsConsole.Backend.Failure
import OpsConsole.SignIn.Store

/-!
# The gateway

An order becomes a request that carries the token of the moment, and is handed to the client once.
An action is checked against its claim before anything else happens. When the backend refuses the
token of a request as such, the session that this token belongs to ends, if it is still the one that
is held; no other reply touches the session.

Sending and settling are steps of their own, so that the session may change between them.

The backend is well when it answers the order that asks for it. The version that it reports is kept
while it is unwell.
-/

namespace OpsConsole

open Json

namespace Reply

def unauthorizedStatus : Nat := 401

def isUnauthorized (r : Reply) : Bool := r.status == unauthorizedStatus

def isBlankByte (b : UInt8) : Bool :=
  b == 0x20 || b == 0x09 || b == 0x0A || b == 0x0C || b == 0x0D

def value? (bytes : List UInt8) : Option Value := (Text.Utf8.strict? bytes).bind Json.parse

def refusalFallback : String := "Request failed"

/-- What a reply says to an order. A blank body says null. -/
def answer (r : Reply) : Except ActionError Value :=
  if r.isUnauthorized then .error .unauthorized
  else if !r.isSuccess then .error (.status r.status (r.failureText refusalFallback))
  else
    match r.body with
    | none => .error (.transport .brokenOff)
    | some bytes =>
      if bytes.all isBlankByte then .ok .null
      else
        match value? bytes with
        | none => .error .undecodable
        | some v => .ok v

end Reply

namespace Backend

def orderAddress? (base : Url) (o : Order) : Option Url :=
  (endpoint? base o.segments).map fun address => { address with query := o.queryText? }

def request (base : Url) (s : SessionStore) (o : Order) : Except ActionError Request :=
  match orderAddress? base o with
  | none => .error (.noEndpoint base)
  | some address => .ok ⟨o.method, address, s.token?, o.body.map Value.render⟩

def prepare (base : Url) (s : SessionStore) (a : Action) : Except ActionError Request :=
  if s.permits a.claim then request base s a.order else .error (.notPermitted a.claim)

end Backend

namespace SessionStore

/-- A reply has come to a request, or none will. -/
def settle (s : SessionStore) (r : Request) (reply : Option Reply) : SessionStore :=
  match reply, r.token with
  | some reply, some token => if reply.isUnauthorized then s.invalidate token else s
  | _, _ => s

end SessionStore

namespace Backend

def outcome : Except String Reply → Except ActionError Value
  | .error cause => .error (.transport (.client cause))
  | .ok reply => reply.answer

/-- Sends what was prepared, and settles it at once. -/
def complete (transport : Transport) (s : SessionStore) :
    Except ActionError Request → Exchange (SessionStore × Except ActionError Value)
  | .error e => .idle (s, .error e)
  | .ok r => (transport.send r).map fun result => (s.settle r result.toOption, outcome result)

def execute (base : Url) (transport : Transport) (s : SessionStore) (o : Order) :
    Exchange (SessionStore × Except ActionError Value) :=
  complete transport s (request base s o)

def perform (base : Url) (transport : Transport) (s : SessionStore) (a : Action) :
    Exchange (SessionStore × Except ActionError Value) :=
  complete transport s (prepare base s a)

end Backend

structure Health where
  healthy : Bool
  version : String
  /-- Whether the backend was ever well. -/
  checked : Bool
  deriving DecidableEq, Inhabited

namespace Health

def start : Health := ⟨false, "", false⟩

def unknownVersion : String := "unknown"

def reportedVersion (body : Json.Value) : String :=
  match ((body.get? "version").bind Json.Value.text?).map Text.trim with
  | none | some "" => unknownVersion
  | some version => version

def after (h : Health) : Except ActionError Json.Value → Health
  | .ok body => ⟨true, reportedVersion body, true⟩
  | .error _ => { h with healthy := false }

end Health

namespace Backend

def checkHealth (base : Url) (transport : Transport) (s : SessionStore) (h : Health) :
    Exchange (SessionStore × Health) :=
  (execute base transport s .health).map fun (s, result) => (s, h.after result)

end Backend

end OpsConsole
