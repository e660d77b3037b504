import OpsConsole.Access.Session
import OpsConsole.SignIn.TokenFile

/-!
# The session store

The store holds the session, a status for those who watch it, and the file that keeps the token
between runs. A session begins when it is established. It ends when the operator signs out, or when
the backend refuses the very token that it holds; a refusal of another token changes nothing. A
session counts even when its token could not be saved.

Changes of the status are announced. A watcher that has seen fewer announcements than there were
has a status to look at.
-/

namespace OpsConsole

inductive SignInStatus
  | signedOut
  | signedIn (userId : String)
  /-- The backend refused the token, so the operator has to sign in again. -/
  | expired
  deriving DecidableEq, Inhabited

namespace SignInStatus

def name : SignInStatus → String
  | signedOut => "signed_out"
  | signedIn _ => "signed_in"
  | expired => "expired"

def isSignedIn : SignInStatus → Bool
  | signedIn _ => true
  | _ => false

end SignInStatus

structure SessionStore where
  session : Option Session
  status : SignInStatus
  /-- The number of announcements so far. -/
  announced : Nat
  file : TokenFile
  files : Files
  deriving DecidableEq

namespace SessionStore

def start (file : TokenFile) (files : Files) : SessionStore := ⟨none, .signedOut, 0, file, files⟩

def token? (s : SessionStore) : Option BearerToken := s.session.map (·.token)

def isAuthenticated (s : SessionStore) : Bool := s.session.isSome

def permits (s : SessionStore) (c : Claim) : Bool := satisfies s.session c

def announce (s : SessionStore) (status : SignInStatus) : SessionStore :=
  { s with status, announced := s.announced + 1 }

def saved? (s : SessionStore) : Except TokenFileError (Option BearerToken) := s.file.load s.files

def forget (s : SessionStore) : SessionStore × Except TokenFileError Unit :=
  let (files, result) := s.file.clear Files.noFaults s.files
  ({ s with files }, result)

/-- Begins a session, and says whether its token was saved. -/
def establish (s : SessionStore) (session : Session) : SessionStore × Except TokenFileError Unit :=
  let (files, result) := s.file.save Files.noFaults s.files session.token
  ({ s with session := some session, files }.announce (.signedIn session.user.id), result)

/-- Ends the session. The status is announced when it changes, or when there was a session. -/
def signOut (s : SessionStore) : SessionStore × Except TokenFileError Unit :=
  let s' := { s with session := none }
  (if s.session.isSome ∨ s.status ≠ .signedOut then s'.announce .signedOut else s').forget

def invalidate (s : SessionStore) (token : BearerToken) : SessionStore :=
  if s.token? = some token then ({ s with session := none }.forget.1).announce .expired else s

end SessionStore

end OpsConsole
