import OpsConsole.Feed.Topic
import OpsConsole.Json.Printer
import OpsConsole.Json.Proper
import OpsConsole.Text.Quoted
import OpsConsole.Text.Utf8

/-!
# Frames

A frame is one event of the live feed: a topic and its payload. On the wire it is an envelope, an
object with the wire name under `type` and the payload under `data`. A payload is never null; a
log line names its process with a text that is not blank and is not empty itself. Reading refuses
everything else with the first of these causes: too many bytes, no envelope, no known topic, no
payload, a payload that is no log line.
-/

namespace OpsConsole

open Json

structure Payload where
  value : Value
  proper : value.Proper
  deriving DecidableEq

namespace Payload

def null : Payload := ⟨.null, trivial⟩

instance : Inhabited Payload := ⟨null⟩

@[simp] theorem mk_eq_null_iff {v : Value} {h : v.Proper} : mk v h = null ↔ v = .null :=
  ⟨congrArg value, fun hv => by subst hv; rfl⟩

def ofDocument? (levels : Nat) (d : Document) : Option Payload :=
  (d.value? levels).pmap mk fun _ h => (d.value?_proper h).2

theorem ofDocument?_eq_some_iff {levels : Nat} {d : Document} {p : Payload} :
    ofDocument? levels d = some p ↔ d.value? levels = some p.value := by
  rw [ofDocument?, Option.pmap_eq_some_iff]
  constructor
  · rintro ⟨v, _, h, rfl⟩
    exact h
  · exact fun h => ⟨p.value, p.proper, h, rfl⟩

theorem ofDocument?_eq_none_iff {levels : Nat} {d : Document} :
    ofDocument? levels d = none ↔ d.value? levels = none :=
  Option.pmap_eq_none_iff

end Payload

structure LogLine where
  processId : String
  line : String
  deriving DecidableEq, Inhabited

inductive Frame
  | processSnapshot (payload : Payload)
  | metricsSample (payload : Payload)
  | alert (payload : Payload)
  | clusterSnapshot (payload : Payload)
  | deploymentSnapshot (payload : Payload)
  | logLine (line : LogLine)
  deriving DecidableEq, Inhabited

inductive LineError
  | blank
  | missing (field : String)
  | identifier
  | notText (found : Value)
  | notRecord (found : Value)
  | tooShort (length : Nat)
  | tooLong (length : Nat)
  deriving DecidableEq, Inhabited

inductive FrameError
  | oversized (size limit : Nat)
  | undecodable
  | unknownType (name : String)
  | missingData (topic : Topic)
  | invalidPayload (topic : Topic) (cause : LineError)
  deriving DecidableEq, Inhabited

def Json.Value.description : Value → String
  | .null => "null"
  | .boolean b => "boolean `" ++ (if b then "true" else "false") ++ "`"
  | .number (.real x) => "floating point `" ++ (Number.real x).text ++ "`"
  | .number n => "integer `" ++ n.text ++ "`"
  | .text s => "string " ++ Text.quoted s
  | .array _ => "sequence"
  | .object _ => "map"

namespace LineError

def message : LineError → String
  | blank => "processId and line must be non-empty"
  | missing field => "missing field `" ++ field ++ "`"
  | identifier => "expected string or number for id"
  | notText v => "invalid type: " ++ v.description ++ ", expected a string"
  | notRecord v => "invalid type: " ++ v.description ++ ", expected struct LogLine"
  | tooShort n => "invalid length " ++ n.repr ++ ", expected struct LogLine with 2 elements"
  | tooLong n => "invalid length " ++ n.repr ++ ", expected fewer elements in array"

end LineError

namespace FrameError

def message : FrameError → String
  | oversized size limit => "frame exceeds max size: " ++ size.repr ++ " > " ++ limit.repr
  | undecodable => "frame decode failed"
  | unknownType name => "unknown frame type: " ++ name
  | missingData topic => "frame of type " ++ topic.wireName ++ " has no data"
  | invalidPayload topic cause =>
    "invalid " ++ topic.wireName ++ " payload: " ++ cause.message

end FrameError

namespace LogLine

def readText (v : Value) : Except LineError String :=
  match v with
  | .text s => .ok s
  | _ => .error (.notText v)

def readId (v : Value) : Except LineError String :=
  match v.identifier? with
  | some id => .ok id
  | none => .error .identifier

/-- The members are looked at in the order of their keys, then it is seen which are missing. -/
def ofMembers (members : List (String × Value)) : Except LineError LogLine :=
  match Value.member? "line" members, Value.member? "processId" members with
  | some l, some p => do
    let line ← readText l
    let id ← readId p
    .ok ⟨id, line⟩
  | some l, none => do
    let _ ← readText l
    .error (.missing "processId")
  | none, some p => do
    let _ ← readId p
    .error (.missing "line")
  | none, none => .error (.missing "processId")

def ofItems (items : List Value) : Except LineError LogLine :=
  match items with
  | [] => .error (.tooShort 0)
  | [p] => do
    let _ ← readId p
    .error (.tooShort 1)
  | p :: l :: rest => do
    let id ← readId p
    let line ← readText l
    if rest.isEmpty then .ok ⟨id, line⟩ else .error (.tooLong items.length)

def ofValue (v : Value) : Except LineError LogLine :=
  match v with
  | .object members => ofMembers members
  | .array items => ofItems items
  | v => .error (.notRecord v)

def isBlank (l : LogLine) : Bool :=
  Text.allBlank l.processId || l.line == ""

def toPayload (l : LogLine) : Payload where
  value := .object [("line", .text l.line), ("processId", .text l.processId)]
  proper := Value.proper_object (List.pairwise_pair.2 (by decide : "line" < "processId"))
    ⟨trivial, trivial, trivial⟩

end LogLine

/-- The two fields of an envelope. A null payload counts as none. -/
structure Envelope where
  type : String
  data : Option Payload

namespace Envelope

/-- A payload is one level inside its envelope. -/
def ofDocument? (d : Document) : Option Envelope :=
  match d.fields? ["type", "data"] with
  | some [some t, none] => t.text?.map fun type => ⟨type, none⟩
  | some [some t, some p] =>
    match t.text?, Payload.ofDocument? (nestingLimit - 1) p with
    | some type, some ⟨.null, _⟩ => some ⟨type, none⟩
    | some type, some payload => some ⟨type, some payload⟩
    | _, _ => none
  | _ => none

def read? (text : String) : Option Envelope :=
  (Document.parse text.toList).bind ofDocument?

def render (type : String) (data : Value) : String :=
  renderRecord [("type", .text type), ("data", data)]

end Envelope

namespace Frame

def topic : Frame → Topic
  | processSnapshot _ => .processSnapshot
  | metricsSample _ => .metricsSample
  | alert _ => .alert
  | clusterSnapshot _ => .clusterSnapshot
  | deploymentSnapshot _ => .deploymentSnapshot
  | logLine _ => .logLine

def payload : Frame → Payload
  | processSnapshot p | metricsSample p | alert p | clusterSnapshot p | deploymentSnapshot p => p
  | logLine l => l.toPayload

def ofPayload (topic : Topic) (payload : Payload) : Except FrameError Frame :=
  match topic with
  | .processSnapshot => .ok (processSnapshot payload)
  | .metricsSample => .ok (metricsSample payload)
  | .alert => .ok (alert payload)
  | .clusterSnapshot => .ok (clusterSnapshot payload)
  | .deploymentSnapshot => .ok (deploymentSnapshot payload)
  | .logLine =>
    match LogLine.ofValue payload.value with
    | .error cause => .error (.invalidPayload .logLine cause)
    | .ok l => if l.isBlank then .error (.invalidPayload .logLine .blank) else .ok (logLine l)

def ofEnvelope (e : Envelope) : Except FrameError Frame :=
  match Topic.ofWireName? e.type with
  | none => .error (.unknownType e.type)
  | some topic =>
    match e.data with
    | none => .error (.missingData topic)
    | some payload => ofPayload topic payload

def read (text : String) : Except FrameError Frame :=
  match Envelope.read? text with
  | none => .error .undecodable
  | some e => ofEnvelope e

/-- Reads a text of at most `limit` bytes. -/
def decode (limit : Nat) (text : String) : Except FrameError Frame :=
  let size := Text.Utf8.size text
  if limit < size then .error (.oversized size limit) else read text

def encode (f : Frame) : String :=
  Envelope.render f.topic.wireName f.payload.value

def defaultLimit : Nat := 1024 * 1024

end Frame

end OpsConsole
