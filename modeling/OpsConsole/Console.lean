import OpsConsole.Access.Route
import OpsConsole.Backend.Gateway
import OpsConsole.Link.Client
import OpsConsole.SignIn.Admission

/-!
# The console

The console ties the feed to the session: a session that begins connects the feed, one that takes
the place of another disconnects it first, and signing out disconnects it. A watcher disconnects
the feed once it sees that the session has expired.

Each operation is a list of steps, since others may come between them. An operation alone runs its
steps one after another, and then lets the watcher look.
-/

namespace OpsConsole

structure Watcher where
  /-- The number of announcements it has looked at. -/
  seen : Nat
  /-- Whether it has yet to disconnect the feed. -/
  alarmed : Bool
  deriving DecidableEq, Inhabited

structure Console (o : LinkOptions) where
  base : Url
  store : SessionStore
  client : Client o
  watcher : Watcher

inductive ConsoleStep
  | establish (session : Session)
  | signOut
  | settle (request : Request) (reply : Option Reply)
  | invalidate (token : BearerToken)
  | feed (event : LinkEvent)
  /-- The watcher looks at the latest status, if it was announced since the last look. -/
  | observe
  | react
  deriving DecidableEq

namespace Console

variable {o : LinkOptions}

def start (base : Url) (store : SessionStore) : Console o :=
  ⟨base, store, .start, ⟨store.announced, false⟩⟩

def onFeed (c : Console o) (e : LinkEvent) : Console o × List Call :=
  let (client, calls) := c.client.step e
  ({ c with client }, calls)

def observe (c : Console o) : Console o :=
  if c.watcher.seen = c.store.announced then c
  else { c with watcher := ⟨c.store.announced, c.store.status = .expired⟩ }

def react (c : Console o) : Console o × List Call :=
  if c.watcher.alarmed then
    { c with watcher := { c.watcher with alarmed := false } }.onFeed .disconnect
  else (c, [])

def step (c : Console o) : ConsoleStep → Console o × List Call
  | .establish session => ({ c with store := (c.store.establish session).1 }, [])
  | .signOut => ({ c with store := c.store.signOut.1 }, [])
  | .settle r reply => ({ c with store := c.store.settle r reply }, [])
  | .invalidate token => ({ c with store := c.store.invalidate token }, [])
  | .feed e => c.onFeed e
  | .observe => (c.observe, [])
  | .react => c.react

def run (c : Console o) (steps : List ConsoleStep) : Console o × List Call :=
  Machine.run step c steps

/-- What the feed has to do for a session that has begun. -/
def following (hadSession : Bool) (session : Session) : List ConsoleStep :=
  (if hadSession then [.feed .disconnect] else []) ++ [.feed (.connect session)]

def signingIn (hadSession : Bool) (session : Session) : List ConsoleStep :=
  .establish session :: following hadSession session

def signingOut : List ConsoleStep := [.signOut, .feed .disconnect]

def watching : List ConsoleStep := [.observe, .react]

/-- The console with its store after an operation on it, once the feed and the watcher have done
what follows from it. -/
def after {α : Type} (c : Console o) (steps : α → List ConsoleStep) (r : SessionStore × α) :
    (Console o × List Call) × α :=
  ({ c with store := r.1 }.run (steps r.2 ++ watching), r.2)

def signIn (c : Console o) (transport : Transport) (credentials : Credentials) :
    Exchange ((Console o × List Call) × Except AuthError Admission) :=
  (c.store.signIn c.base transport credentials).map <| c.after fun
    | .ok admission => following c.store.isAuthenticated admission.session
    | .error _ => []

def resume (c : Console o) (transport : Transport) :
    Exchange ((Console o × List Call) × Resumption) :=
  (c.store.resume c.base transport).map <| c.after fun
    | .resumed admission => following c.store.isAuthenticated admission.session
    | _ => []

def signOut (c : Console o) : (Console o × List Call) × Except TokenFileError Unit :=
  c.after (fun _ => [.feed .disconnect]) c.store.signOut

def onStore {α : Type} (c : Console o) (x : Exchange (SessionStore × α)) :
    Exchange ((Console o × List Call) × α) :=
  x.map (c.after fun _ => [])

def perform (c : Console o) (transport : Transport) (a : Action) :
    Exchange ((Console o × List Call) × Except ActionError Json.Value) :=
  c.onStore (Backend.perform c.base transport c.store a)

def checkHealth (c : Console o) (transport : Transport) (h : Health) :
    Exchange ((Console o × List Call) × Health) :=
  c.onStore (Backend.checkHealth c.base transport c.store h)

def visit (c : Console o) (path : String) : Decision := OpsConsole.visit path c.store.session

/-- Connects the feed for the session that is held, if there is one. -/
def connectHeld (c : Console o) : Option (Console o × List Call) :=
  c.store.session.map fun session => c.onFeed (.connect session)

end Console

end OpsConsole
