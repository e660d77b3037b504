import OpsConsole.Access.Session
import OpsConsole.Backend.Gateway

/-!
# Accounts

An operator signs in with credentials, registers, or is recognised by a token. None of these
requests carries the token of the session, and none of their replies touches it.
-/

namespace OpsConsole

open Json

namespace Reply

def codeRequiredStatus : Nat := 428

def rejectionStatuses : List Nat := [400, 401, 403]

/-- How a reply refuses a sign-in. -/
def refusal (r : Reply) (fallback : String) : AuthError :=
  if r.status = codeRequiredStatus then .codeRequired
  else if r.status ∈ rejectionStatuses then .rejected (r.failureText fallback)
  else .server r.status (r.failureText fallback)

def unreadable : AuthError := .server 200 TransportError.brokenOff.message

def signInReply (r : Reply) : Except AuthError SignInReply :=
  if !r.isSuccess then .error (r.refusal "Login failed")
  else
    match r.body.bind SignInReply.parse? with
    | none => .error unreadable
    | some reply => .ok reply

def registered (r : Reply) : Except AuthError Unit :=
  if r.isSuccess then .ok () else .error (r.refusal "Registration failed")

/-- The user within a value: its member `user` if that is an object, else the value itself. -/
def userValue (v : Value) : Value :=
  match v.get? "user" with
  | some inner => if inner.isObject then inner else v
  | none => v

def user? (bytes : List UInt8) : Option User := do
  let v ← value? bytes
  User.ofValue? (userValue v)

def user (r : Reply) : Except ActionError User :=
  if r.isUnauthorized then .error .unauthorized
  else if !r.isSuccess then .error (.status r.status (r.failureText refusalFallback))
  else
    match r.body.bind user? with
    | none => .error .undecodable
    | some u => .ok u

end Reply

namespace Backend

def submit {α : Type} (base : Url) (transport : Transport) (endpoint body : String)
    (read : Reply → Except AuthError α) : Exchange (Except AuthError α) :=
  match endpoint? base ["auth", endpoint] with
  | none => .idle (.error (.transport (.noEndpoint base)))
  | some address =>
    (transport.send ⟨.post, address, none, some body⟩).map fun
      | .error cause => .error (.transport (.client cause))
      | .ok reply => read reply

def login (base : Url) (transport : Transport) (c : Credentials) :
    Exchange (Except AuthError SignInReply) :=
  submit base transport "login" c.render Reply.signInReply

def registration (username password email : String) : Value :=
  .ofMembers [("username", .text username), ("password", .text password), ("email", .text email)]

def register (base : Url) (transport : Transport) (username password email : String) :
    Exchange (Except AuthError Unit) :=
  submit base transport "register" (registration username password email).render Reply.registered

/-- Asks who a token stands for. -/
def currentUser (base : Url) (transport : Transport) (token : BearerToken) :
    Exchange (Except ActionError User) :=
  match endpoint? base ["auth", "me"] with
  | none => .idle (.error (.noEndpoint base))
  | some address =>
    (transport.send ⟨.get, address, some token, none⟩).map fun
      | .error cause => .error (.transport (.client cause))
      | .ok reply => reply.user

end Backend

end OpsConsole
