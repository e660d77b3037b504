import OpsConsole.Access.Claim
import OpsConsole.Backend.Exchange
import OpsConsole.Json.Document
import OpsConsole.Text.Utf8

/-!
# Failures

A request fails on the way, or the backend refuses it. A reply that refuses explains itself in the
`message` of its body, else in its `error`; where it does neither, a general text stands in. An
action and a sign-in tell these failures apart in different ways.
-/

namespace OpsConsole

inductive TransportError
  | noEndpoint (base : Url)
  /-- In the words of the client. -/
  | client (cause : String)
  | brokenOff
  deriving DecidableEq, Inhabited

inductive ActionError
  | unauthorized
  | status (code : Nat) (text : String)
  | transport (cause : TransportError)
  | undecodable
  | notPermitted (claim : Claim)
  | noEndpoint (base : Url)
  deriving DecidableEq, Inhabited

inductive AuthError
  | rejected (text : String)
  | codeRequired
  | transport (cause : TransportError)
  | server (code : Nat) (text : String)
  deriving DecidableEq, Inhabited

namespace TransportError

def message : TransportError → String
  | noEndpoint base => "cannot build endpoint from " ++ base.render
  | client cause => cause
  | brokenOff => "error decoding response body"

end TransportError

namespace ActionError

def message : ActionError → String
  | unauthorized => "session expired"
  | status code text => "request failed with " ++ code.repr ++ ": " ++ text
  | transport cause => "transport error: " ++ cause.message
  | undecodable => "invalid response body"
  | notPermitted claim => "missing permission " ++ claim.text
  | noEndpoint base => (TransportError.noEndpoint base).message

def status? : ActionError → Option Nat
  | unauthorized => some 401
  | status code _ => some code
  | _ => none

end ActionError

namespace AuthError

def message : AuthError → String
  | rejected text => text
  | codeRequired => "multi-factor code required"
  | transport cause => "transport error: " ++ cause.message
  | server code text => "server error " ++ code.repr ++ ": " ++ text

end AuthError

namespace Reply

open Text

def explanation? (body : String) : Option String := do
  let v ← Json.parse body
  let texts := ["message", "error"].filterMap fun key => (v.get? key).bind Json.Value.text?
  (texts.map trim).find? (· ≠ "")

/-- The body as a text, empty where it broke off. -/
def text (r : Reply) : String :=
  match r.body with
  | none => ""
  | some bytes => Utf8.lossy bytes

def failureText (r : Reply) (fallback : String) : String := (explanation? r.text).getD fallback

end Reply

end OpsConsole
