import OpsConsole.Feed.Channel
import OpsConsole.Feed.Frame
import OpsConsole.Text.Sorted

/-!
# The channels of the feed

Each topic has a channel of its own, and each process has one for its log lines. A frame goes into
the channel of its topic and no other. An alert is acknowledged by its identifier, which is a text
or a number.
-/

namespace OpsConsole

open Json

/-- How many items the bounded channels hold. -/
structure Limits where
  metrics : Nat := 100
  logLines : Nat := 1000
  alerts : Nat := 500
  deriving DecidableEq, Inhabited

abbrev LogChannel (limits : Limits) : Type := Channel (.slidingWindow limits.logLines) String

structure Channels (limits : Limits) where
  processes : Channel .latest Payload
  cluster : Channel .latest Payload
  deployments : Channel .latest Payload
  metrics : Channel (.slidingWindow limits.metrics) Payload
  alerts : Channel (.newestFirst limits.alerts) Payload
  logs : TextMap (LogChannel limits)
  deriving DecidableEq

/-- The identifier of an alert: the text under `id`, or that of the number under it. -/
def alertId? (alert : Payload) : Option String :=
  match alert.value.get? "id" with
  | some (.text s) => some s
  | some (.number n) => some n.text
  | _ => none

namespace Channels

variable {limits : Limits}

def empty : Channels limits := ⟨∅, ∅, ∅, ∅, ∅, ∅⟩

instance : EmptyCollection (Channels limits) := ⟨empty⟩

instance : Inhabited (Channels limits) := ⟨empty⟩

def ingestLine (c : Channels limits) (l : LogLine) : Channels limits :=
  { c with logs := c.logs.update l.processId fun lines => (lines.getD ∅).ingest l.line }

def ingest (c : Channels limits) : Frame → Channels limits
  | .processSnapshot p => { c with processes := c.processes.ingest p }
  | .clusterSnapshot p => { c with cluster := c.cluster.ingest p }
  | .deploymentSnapshot p => { c with deployments := c.deployments.ingest p }
  | .metricsSample p => { c with metrics := c.metrics.ingest p }
  | .alert p => { c with alerts := c.alerts.ingest p }
  | .logLine l => c.ingestLine l

/-- The lines of a process, if it ever logged one. -/
def lines? (c : Channels limits) (process : String) : Option (LogChannel limits) :=
  c.logs.get? process

/-- Whether an alert stays when an identifier is acknowledged. -/
def survives (id : String) (alert : Payload) : Bool := alertId? alert != some id

def acknowledge (c : Channels limits) (id : String) : Channels limits :=
  { c with alerts := c.alerts.retain (survives id) }

def acknowledged (c : Channels limits) (id : String) : Nat :=
  c.alerts.removed (survives id)

def dropLines (c : Channels limits) (process : String) : Channels limits :=
  { c with logs := c.logs.erase process }

def isEmpty (c : Channels limits) : Bool :=
  c.processes.isEmpty && c.cluster.isEmpty && c.deployments.isEmpty && c.metrics.isEmpty &&
    c.alerts.isEmpty && c.logs.isEmpty

end Channels

end OpsConsole
