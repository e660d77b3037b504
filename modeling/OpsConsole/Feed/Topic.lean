import OpsConsole.Text.Blank

/-!
# Topics

The categories of events on the live feed. A topic has a wire name, which the backend puts into
an envelope, and a stored name.
-/

namespace OpsConsole

inductive Topic
  | processSnapshot
  | metricsSample
  | alert
  | clusterSnapshot
  | deploymentSnapshot
  | logLine
  deriving DecidableEq, Inhabited

namespace Topic

def all : List Topic :=
  [processSnapshot, metricsSample, alert, clusterSnapshot, deploymentSnapshot, logLine]

def wireName : Topic → String
  | processSnapshot => "process_update"
  | metricsSample => "metrics_update"
  | alert => "alert"
  | clusterSnapshot => "cluster_update"
  | deploymentSnapshot => "deployment_update"
  | logLine => "log_stream"

def storedName : Topic → String
  | processSnapshot => "process_snapshot"
  | metricsSample => "metrics_sample"
  | alert => "alert"
  | clusterSnapshot => "cluster_snapshot"
  | deploymentSnapshot => "deployment_snapshot"
  | logLine => "log_line"

def ofWireName? (name : String) : Option Topic :=
  all.find? (·.wireName = name)

def ofStoredName? (name : String) : Option Topic :=
  all.find? (·.storedName = name)

@[simp] theorem ofWireName?_wireName (t : Topic) : ofWireName? t.wireName = some t := by
  cases t <;> decide

/-- A wire name with blank characters around it. -/
def parse? (text : String) : Option Topic :=
  ofWireName? (Text.trim text)

def unknownMessage (text : String) : String :=
  "Unknown topic: " ++ text

end Topic

end OpsConsole
