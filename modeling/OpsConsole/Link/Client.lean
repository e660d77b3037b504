import OpsConsole.Link.Connection

/-!
# The client of the feed

The client is a connection as others watch it: its state is published after whatever may change it,
and a revision counts the changes of what was received. So whoever knows the revision knows whether
there is something new to see.
-/

namespace OpsConsole

structure Client (o : LinkOptions) where
  connection : Connection o
  published : LinkState
  revision : Nat
  deriving DecidableEq

namespace Client

variable {o : LinkOptions}

def start : Client o := ⟨.start, .idle, 0⟩

instance : Inhabited (Client o) := ⟨start⟩

/-- The events that the phase may change with. -/
def isPublished : LinkEvent → Bool
  | .subscribe _ | .unsubscribe _ | .acknowledge _ => false
  | _ => true

/-- Whether an event counts as a change of what was received. -/
def isCounted (c : Connection o) : LinkEvent → Bool
  | .disconnect | .unsubscribe _ => true
  | .acknowledge id => 0 < (c.acknowledge id).2
  | .received link raw => (c.received link raw).2.isSome
  | _ => false

def step (c : Client o) (e : LinkEvent) : Client o × List Call :=
  let (connection, calls) := c.connection.step e
  (⟨connection, if isPublished e then connection.phase.state else c.published,
    if isCounted c.connection e then c.revision + 1 else c.revision⟩, calls)

def run (c : Client o) (es : List LinkEvent) : Client o × List Call := Machine.run step c es

def channels (c : Client o) : Channels o.limits := c.connection.inbox.channels

end Client

end OpsConsole
