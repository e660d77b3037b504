import OpsConsole.Feed.Channels

/-!
# The inbox

The inbox receives raw texts. A text that reads as a frame is routed to the channel of its topic;
any other text is dropped and changes no channel. Both are counted, and the counts outlive a
clearing of the channels.
-/

namespace OpsConsole

/-- How many texts were routed and how many were dropped. -/
structure Tally where
  routed : Nat
  dropped : Nat
  deriving DecidableEq, Inhabited

structure Inbox (limits : Limits) where
  channels : Channels limits
  tally : Tally
  deriving DecidableEq

namespace Inbox

variable {limits : Limits}

def empty : Inbox limits := ⟨∅, ⟨0, 0⟩⟩

instance : EmptyCollection (Inbox limits) := ⟨empty⟩

instance : Inhabited (Inbox limits) := ⟨empty⟩

def routed (b : Inbox limits) (f : Frame) : Inbox limits :=
  ⟨b.channels.ingest f, { b.tally with routed := b.tally.routed + 1 }⟩

def dropped (b : Inbox limits) : Inbox limits :=
  { b with tally := { b.tally with dropped := b.tally.dropped + 1 } }

/-- Takes one text of at most `frameLimit` bytes, and says to which topic it went. -/
def receive (frameLimit : Nat) (b : Inbox limits) (raw : String) : Inbox limits × Option Topic :=
  match Frame.decode frameLimit raw with
  | .ok f => (b.routed f, some f.topic)
  | .error _ => (b.dropped, none)

/-- A change of the channels that is not a text received. -/
def onChannels (b : Inbox limits) (change : Channels limits → Channels limits) : Inbox limits :=
  { b with channels := change b.channels }

def acknowledge (b : Inbox limits) (id : String) : Inbox limits :=
  b.onChannels (·.acknowledge id)

def dropLines (b : Inbox limits) (process : String) : Inbox limits :=
  b.onChannels (·.dropLines process)

def clear (b : Inbox limits) : Inbox limits :=
  b.onChannels fun _ => ∅

end Inbox

end OpsConsole
