import OpsConsole.Backend.Accounts

/-!
# Ways into a session

A session begins with credentials that the backend takes, or is resumed with the token that was
saved. A saved token for which the backend names no user, for whatever reason, is removed; a
session that is held at that time stays as it is.
-/

namespace OpsConsole

structure Admission where
  session : Session
  saved : Except TokenFileError Unit

inductive Resumption
  | unreadable (cause : TokenFileError)
  | nothingSaved
  | refused (cause : ActionError) (removed : Except TokenFileError Unit)
  | resumed (admission : Admission)

namespace Resumption

/-- The session that was resumed, or the failure of the token file that stood in the way. -/
def session? : Resumption → Except TokenFileError (Option Session)
  | unreadable cause => .error cause
  | nothingSaved => .ok none
  | refused _ removed => removed.map fun _ => none
  | resumed admission => .ok (some admission.session)

end Resumption

namespace SessionStore

def commence (s : SessionStore) (session : Session) : SessionStore × Admission :=
  let (s, saved) := s.establish session
  (s, ⟨session, saved⟩)

/-- The reply held no token that could be used. -/
def withoutToken : AuthError := .server 200 "login response carried no token"

def signIn (base : Url) (transport : Transport) (s : SessionStore) (c : Credentials) :
    Exchange (SessionStore × Except AuthError Admission) :=
  (Backend.login base transport c).map fun
    | .error e => (s, .error e)
    | .ok reply =>
      match reply.session? with
      | none => (s, .error withoutToken)
      | some session =>
        let (s, admission) := s.commence session
        (s, .ok admission)

def resume (base : Url) (transport : Transport) (s : SessionStore) :
    Exchange (SessionStore × Resumption) :=
  match s.saved? with
  | .error e => .idle (s, .unreadable e)
  | .ok none => .idle (s, .nothingSaved)
  | .ok (some token) =>
    (Backend.currentUser base transport token).map fun
      | .ok user =>
        let (s, admission) := s.commence ⟨token, user⟩
        (s, .resumed admission)
      | .error e =>
        let (s, removed) := s.forget
        (s, .refused e removed)

end SessionStore

end OpsConsole
