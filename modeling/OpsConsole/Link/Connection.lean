import OpsConsole.Access.Session
import OpsConsole.Feed.Inbox
import OpsConsole.Link.Backoff

/-!
# The connection

A connection keeps at most one link to the backend alive. A lost link is opened again when a timer
runs out; a disconnect ends everything. The connection asks for links and timers by calls, and
hears of them by events that carry the number of the link or timer they are about. An event about
a link or timer that is not the current one changes nothing.

Links and timers are numbered from one, each number is used once, and what is opened or scheduled
is closed, cancelled or run out before the next one.
-/

namespace OpsConsole

/-! ### Machines -/

/-- The state after some inputs, and all that the steps put out on the way. -/
def Machine.run {σ ι ω : Type} (step : σ → ι → σ × List ω) (s : σ) : List ι → σ × List ω
  | [] => (s, [])
  | i :: rest =>
    let (s, out) := step s i
    let (s, more) := run step s rest
    (s, out ++ more)

namespace Machine

variable {σ τ ι ω : Type} (step : σ → ι → σ × List ω)

theorem run_cons (s : σ) (i : ι) (rest : List ι) :
    run step s (i :: rest) =
      ((run step (step s i).1 rest).1, (step s i).2 ++ (run step (step s i).1 rest).2) := rfl

theorem run_append (s : σ) (a b : List ι) :
    run step s (a ++ b) =
      ((run step (run step s a).1 b).1, (run step s a).2 ++ (run step (run step s a).1 b).2) := by
  induction a generalizing s with
  | nil => rfl
  | cons i rest ih => simp only [List.cons_append, run_cons, ih, List.append_assoc]

variable {step}

theorem run_keeps {P : σ → Prop} (hstep : ∀ s i, P s → P (step s i).1) {s : σ} (h : P s)
    (is : List ι) : P (run step s is).1 := by
  induction is generalizing s with
  | nil => exact h
  | cons i rest ih => exact ih (hstep s i h)

/-- A machine that steps as another one does, seen through its state, runs as it does. -/
theorem run_map {step' : τ → ι → τ × List ω} (f : σ → τ)
    (hstep : ∀ s i, step' (f s) i = (f (step s i).1, (step s i).2)) (s : σ) (is : List ι) :
    run step' (f s) is = (f (run step s is).1, (run step s is).2) := by
  induction is generalizing s with
  | nil => rfl
  | cons i rest ih => rw [run_cons, run_cons, hstep, ih]

end Machine

/-! ### Connections -/

inductive Call
  | openLink (link : Nat) (token : BearerToken)
  | closeLink (link : Nat)
  | schedule (timer : Nat) (delay : Nat)
  | cancel (timer : Nat)
  deriving DecidableEq

inductive LinkState
  | idle
  | connecting
  | live
  | reconnecting
  | closed
  deriving DecidableEq, Inhabited

namespace LinkState

def name : LinkState → String
  | idle => "idle"
  | connecting => "connecting"
  | live => "open"
  | reconnecting => "reconnecting"
  | closed => "closed"

def isLive : LinkState → Bool
  | live => true
  | _ => false

end LinkState

inductive Phase
  | idle
  | connecting (link : Nat)
  | live (link : Nat)
  | reconnecting (timer : Nat) (delay : Nat)
  | closed
  deriving DecidableEq, Inhabited

namespace Phase

def state : Phase → LinkState
  | idle => .idle
  | connecting _ => .connecting
  | live _ => .live
  | reconnecting .. => .reconnecting
  | closed => .closed

/-- Whether a link is up, under way or due. -/
def isActive : Phase → Bool
  | connecting _ | live _ | reconnecting .. => true
  | idle | closed => false

def link? : Phase → Option Nat
  | connecting n | live n => some n
  | _ => none

def timer? : Phase → Option (Nat × Nat)
  | reconnecting timer delay => some (timer, delay)
  | _ => none

def release : Phase → List Call
  | connecting n | live n => [.closeLink n]
  | reconnecting timer _ => [.cancel timer]
  | idle | closed => []

end Phase

structure LinkOptions where
  schedule : Schedule
  words : WordSource
  limits : Limits
  frameLimit : Nat

structure Connection (o : LinkOptions) where
  phase : Phase
  token : Option BearerToken
  backoff : Backoff
  /-- The number of links opened so far. -/
  links : Nat
  /-- The number of timers scheduled so far. -/
  timers : Nat
  inbox : Inbox o.limits
  subscriptions : TextSet
  deriving DecidableEq

namespace Connection

variable {o : LinkOptions}

def start : Connection o := ⟨.idle, none, .start, 0, 0, ∅, ∅⟩

instance : Inhabited (Connection o) := ⟨start⟩

def openLink (c : Connection o) : Connection o × List Call :=
  match c.token with
  | none => ({ c with phase := .idle }, [])
  | some token =>
    let link := c.links + 1
    ({ c with phase := .connecting link, links := link }, [.openLink link token])

def disconnect (c : Connection o) : Connection o × List Call :=
  ({ c with
      phase := .closed
      token := none
      backoff := c.backoff.reset
      inbox := c.inbox.clear
      subscriptions := ∅ },
    c.phase.release)

/-- Lets go of the link or timer. The token of another session goes with all that was received
with it. -/
def vacate (c : Connection o) (token : BearerToken) : Connection o × List Call :=
  if c.token.isSome ∧ c.token ≠ some token then c.disconnect
  else ({ c with phase := .idle }, c.phase.release)

def drop (c : Connection o) : Connection o × List Call :=
  ({ c with phase := .idle }, c.phase.release)

/-- Connects for a session. While a link for the same token is up, under way or due, this changes
nothing. -/
def connect (c : Connection o) (s : Session) : Connection o × List Call :=
  if c.phase.isActive ∧ c.token = some s.token then (c, [])
  else
    let (c, released) := c.vacate s.token
    let (c, opened) := openLink { c with token := some s.token, backoff := c.backoff.reset }
    (c, released ++ opened)

def opened (c : Connection o) (link : Nat) : Connection o :=
  if c.phase = .connecting link then
    { c with phase := .live link, backoff := c.backoff.reset }
  else c

def received (c : Connection o) (link : Nat) (raw : String) : Connection o × Option Topic :=
  if c.phase.link? = some link then
    let (inbox, topic) := c.inbox.receive o.frameLimit raw
    ({ c with inbox }, topic)
  else (c, none)

/-- A link is lost. It is closed, and the next attempt is scheduled. -/
def lost (c : Connection o) (link : Nat) : Connection o × List Call :=
  if c.phase.link? = some link then
    let backoff := c.backoff.next o.schedule o.words
    let timer := c.timers + 1
    ({ c with phase := .reconnecting timer backoff.last, backoff, timers := timer },
      c.phase.release ++ [.schedule timer backoff.last])
  else (c, [])

def due (c : Connection o) (timer : Nat) : Connection o × List Call :=
  if c.phase.timer?.map (·.1) = some timer then openLink { c with phase := .idle }
  else (c, [])

def subscribe (c : Connection o) (process : String) : Connection o × Bool :=
  ({ c with subscriptions := c.subscriptions.insert process }, process ∉ c.subscriptions)

/-- Says whether the process was subscribed. Its lines are dropped in any case. -/
def unsubscribe (c : Connection o) (process : String) : Connection o × Bool :=
  ({ c with
      inbox := c.inbox.dropLines process
      subscriptions := c.subscriptions.erase process },
    process ∈ c.subscriptions)

def acknowledge (c : Connection o) (id : String) : Connection o × Nat :=
  ({ c with inbox := c.inbox.acknowledge id }, c.inbox.channels.acknowledged id)

end Connection

inductive LinkEvent
  | connect (session : Session)
  | disconnect
  | opened (link : Nat)
  | received (link : Nat) (raw : String)
  | lost (link : Nat)
  | due (timer : Nat)
  | subscribe (process : String)
  | unsubscribe (process : String)
  | acknowledge (id : String)
  deriving DecidableEq

namespace Connection

variable {o : LinkOptions}

def step (c : Connection o) : LinkEvent → Connection o × List Call
  | .connect s => c.connect s
  | .disconnect => c.disconnect
  | .opened link => (c.opened link, [])
  | .received link raw => ((c.received link raw).1, [])
  | .lost link => c.lost link
  | .due timer => c.due timer
  | .subscribe process => ((c.subscribe process).1, [])
  | .unsubscribe process => ((c.unsubscribe process).1, [])
  | .acknowledge id => ((c.acknowledge id).1, [])

def run (c : Connection o) (es : List LinkEvent) : Connection o × List Call :=
  Machine.run step c es

end Connection

end OpsConsole
