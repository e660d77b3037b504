import OpsConsole.Access.Token
import OpsConsole.Access.User
import OpsConsole.Text.Quoted

/-!
# Sessions

A session is a token and the user it stands for; signed out is the absence of a session. A sign-in
reply makes a session when its token is not blank.
-/

namespace OpsConsole

open Json

structure Session where
  token : BearerToken
  user : User
  deriving DecidableEq

def satisfies (session : Option Session) (c : Claim) : Bool :=
  match session with
  | some s => s.user.satisfies c
  | none => false

def hasPermission (session : Option Session) (resource action scope : String) : Bool :=
  satisfies session ⟨resource, action, scope⟩

structure Credentials where
  username : String
  password : String
  mfaCode : Option String
  deriving DecidableEq, Inhabited

namespace Credentials

/-- An absent code is left out. -/
def render (c : Credentials) : String :=
  renderRecord ([("username", .text c.username), ("password", .text c.password)] ++
    (c.mfaCode.map fun code => ("mfa_code", Value.text code)).toList)

/-- The credentials as messages show them, without the secrets. -/
def shown (c : Credentials) : String :=
  let code := match c.mfaCode with
    | none => "None"
    | some _ => "Some(" ++ Text.quoted BearerToken.masked ++ ")"
  "Credentials \x7b username: " ++ Text.quoted c.username ++ ", password: " ++
    Text.quoted BearerToken.masked ++ ", mfa_code: " ++ code ++ " \x7d"

end Credentials

structure SignInReply where
  token : String
  user : User
  deriving DecidableEq, Inhabited

namespace SignInReply

def ofDocument? (d : Document) : Option SignInReply :=
  match d.fields? ["token", "user"] with
  | some [some token, some user] => do
    let token ← token.text?
    let user ← User.ofDocument? user
    some ⟨token, user⟩
  | _ => none

def parse? (bytes : List UInt8) : Option SignInReply :=
  (Document.parseBytes bytes).bind ofDocument?

def session? (r : SignInReply) : Option Session :=
  (BearerToken.ofText? r.token).map fun token => ⟨token, r.user⟩

end SignInReply

end OpsConsole
