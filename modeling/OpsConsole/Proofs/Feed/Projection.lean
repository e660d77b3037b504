import Mathlib.Data.List.DropRight
import OpsConsole.Feed.Inbox

/-!
# What each channel holds

An inbox takes texts, acknowledgements, drops of the lines of a process and clearings, in any
order. The tally counts the texts that read as frames and those that do not. A channel of payloads
holds the most recent of those that arrived for it since the last clearing, and the lines of a
process are the most recent since they were last dropped or cleared. The alerts are those of a
queue of their own, which is told of nothing but alerts, acknowledgements and clearings.

So a channel is what the events that concern it have made of it: without all the others it would
hold the same.
-/

namespace OpsConsole

open Json

namespace Channel

variable {r : Retention} {α : Type}

/-- The channel into which some items went, and nothing else happened. -/
def ofArrived (items : List α) : Channel r α :=
  ⟨items.reverse.take r.capacity, List.length_take_le _ _⟩

@[simp] theorem held_ofArrived (items : List α) :
    (ofArrived items : Channel r α).held = items.reverse.take r.capacity := rfl

@[simp] theorem ofArrived_nil : (ofArrived [] : Channel r α) = ∅ :=
  ext List.take_nil

/-- An item that is evicted is not missed by what comes later. -/
theorem ingest_ofArrived (items : List α) (a : α) :
    (ofArrived items : Channel r α).ingest a = ofArrived (items ++ [a]) := by
  apply ext
  rw [held_ingest, held_ofArrived, held_ofArrived, List.reverse_concat]
  cases r.capacity with
  | zero => rfl
  | succ n =>
    rw [List.take_succ_cons, List.take_succ_cons, List.take_take, Nat.min_eq_left (Nat.le_succ n)]

theorem foldl_ingest_ofArrived (items more : List α) :
    more.foldl ingest (ofArrived items : Channel r α) = ofArrived (items ++ more) := by
  induction more generalizing items with
  | nil => rw [List.append_nil, List.foldl_nil]
  | cons a rest ih =>
    rw [List.foldl_cons, ingest_ofArrived, ih, List.append_assoc, List.singleton_append]

theorem items_ofArrived {n : Nat} (items : List α) :
    (ofArrived items : Channel (.slidingWindow n) α).items = items.rtake n :=
  (List.rtake_eq_reverse_take_reverse items n).symm

theorem newest?_ofArrived (items : List α) :
    (ofArrived items : Channel .latest α).newest? = items.getLast? := by
  rw [newest?, held_ofArrived, ← List.head?_reverse]
  cases items.reverse <;> rfl

end Channel

/-- Where a frame goes. -/
inductive ChannelName
  | processes
  | cluster
  | deployments
  | metrics
  | alerts
  | lines (process : String)
  deriving DecidableEq, Inhabited

namespace Frame

def channel : Frame → ChannelName
  | processSnapshot _ => .processes
  | metricsSample _ => .metrics
  | alert _ => .alerts
  | clusterSnapshot _ => .cluster
  | deploymentSnapshot _ => .deployments
  | logLine l => .lines l.processId

/-- Whether a text reads as a frame. -/
def reads (frameLimit : Nat) (raw : String) : Bool := (decode frameLimit raw).isOk

def payload? (topic : Topic) (f : Frame) : Option Payload :=
  if f.topic = topic then some f.payload else none

def line? (process : String) : Frame → Option String
  | logLine l => if l.processId = process then some l.line else none
  | _ => none

end Frame

namespace Channels

variable {limits : Limits}

/-- A part of the channels that takes the payloads of one topic, and loses them only with all the
rest. -/
structure Takes {r : Retention} (topic : Topic) (part : Channels limits → Channel r Payload) :
    Prop where
  empty : part ∅ = ∅
  ingest : ∀ (c : Channels limits) f,
    part (c.ingest f) = (Frame.payload? topic f).toList.foldl Channel.ingest (part c)
  acknowledge : ∀ (c : Channels limits) id, part (c.acknowledge id) = part c
  dropLines : ∀ (c : Channels limits) process, part (c.dropLines process) = part c

theorem takes_processes : Takes .processSnapshot (@processes limits) :=
  ⟨rfl, fun _ f => by cases f <;> rfl, fun _ _ => rfl, fun _ _ => rfl⟩

theorem takes_cluster : Takes .clusterSnapshot (@cluster limits) :=
  ⟨rfl, fun _ f => by cases f <;> rfl, fun _ _ => rfl, fun _ _ => rfl⟩

theorem takes_deployments : Takes .deploymentSnapshot (@deployments limits) :=
  ⟨rfl, fun _ f => by cases f <;> rfl, fun _ _ => rfl, fun _ _ => rfl⟩

theorem takes_metrics : Takes .metricsSample (@metrics limits) :=
  ⟨rfl, fun _ f => by cases f <;> rfl, fun _ _ => rfl, fun _ _ => rfl⟩

/-- Two states of the channels that do not differ in one of them. -/
def SameIn (c d : Channels limits) : ChannelName → Prop
  | .processes => c.processes = d.processes
  | .cluster => c.cluster = d.cluster
  | .deployments => c.deployments = d.deployments
  | .metrics => c.metrics = d.metrics
  | .alerts => c.alerts = d.alerts
  | .lines process => c.lines? process = d.lines? process

theorem sameIn_refl (c : Channels limits) (n : ChannelName) : SameIn c c n := by
  cases n <;> rfl

theorem SameIn.trans {c d e : Channels limits} {n : ChannelName} (h : SameIn c d n)
    (h' : SameIn d e n) : SameIn c e n := by
  cases n <;> exact Eq.trans h h'

theorem lines?_ingest (c : Channels limits) (f : Frame) (process : String) :
    (c.ingest f).lines? process =
      match f.line? process with
      | some line => some (((c.lines? process).getD ∅).ingest line)
      | none => c.lines? process := by
  cases f with
  | logLine l =>
    have hget : (c.ingest (.logLine l)).lines? process =
        if process = l.processId then _ else _ := TextMap.get?_update ..
    rw [hget, Frame.line?]
    by_cases hp : process = l.processId
    · subst hp
      rw [if_pos rfl, if_pos rfl]
      rfl
    · rw [if_neg hp, if_neg (Ne.symm hp)]
      rfl
  | _ => rfl

theorem lines?_dropLines (c : Channels limits) (dropped process : String) :
    (c.dropLines dropped).lines? process =
      if process = dropped then none else c.lines? process :=
  TextMap.get?_erase ..

theorem sameIn_ingest {c : Channels limits} {f : Frame} {n : ChannelName} (h : f.channel ≠ n) :
    SameIn (c.ingest f) c n := by
  cases n with
  | lines process =>
    have hline : f.line? process = none := by
      cases f with
      | logLine l => exact if_neg fun hp => h (congrArg ChannelName.lines hp)
      | _ => rfl
    rw [SameIn, lines?_ingest, hline]
  | _ => cases f <;> simp_all [Frame.channel, SameIn, ingest, ingestLine]

end Channels

/-- What an inbox is told. -/
inductive InboxEvent
  | receive (raw : String)
  | acknowledge (id : String)
  | dropLines (process : String)
  | clear
  deriving DecidableEq, Inhabited

/-- What a queue of alerts is told. -/
inductive AlertEvent
  | raise (alert : Payload)
  | acknowledge (id : String)
  | clear
  deriving DecidableEq

namespace AlertEvent

/-- What becomes of a queue that lists at most so many alerts, the newest first. -/
def onQueue (capacity : Nat) (queue : List Payload) : AlertEvent → List Payload
  | raise alert => (alert :: queue).take capacity
  | acknowledge id => queue.filter (alertId? · != some id)
  | clear => []

end AlertEvent

namespace InboxEvent

def text? : InboxEvent → Option String
  | receive raw => some raw
  | _ => none

def frame? (frameLimit : Nat) : InboxEvent → Option Frame
  | receive raw => (Frame.decode frameLimit raw).toOption
  | _ => none

def isClear : InboxEvent → Bool
  | clear => true
  | _ => false

/-- Whether an event takes away the lines of a process. -/
def endsLines (process : String) : InboxEvent → Bool
  | dropLines p => p = process
  | clear => true
  | _ => false

/-- What an event means to the alerts. -/
def alertEvent? (frameLimit : Nat) : InboxEvent → Option AlertEvent
  | receive raw => ((Frame.decode frameLimit raw).toOption.bind (Frame.payload? .alert)).map .raise
  | acknowledge id => some (.acknowledge id)
  | dropLines _ => none
  | clear => some .clear

/-- Whether an event is about a channel. -/
def concerns (frameLimit : Nat) (n : ChannelName) : InboxEvent → Bool
  | receive raw => (Frame.decode frameLimit raw).toOption.any (·.channel = n)
  | acknowledge _ => n = .alerts
  | dropLines process => n = .lines process
  | clear => true

/-- The items picked from the frames that came after the last end, in the order of their arrival. -/
def arrived {α : Type} (ends : InboxEvent → Bool) (pick : Frame → Option α) (frameLimit : Nat)
    (es : List InboxEvent) : List α :=
  (es.rtakeWhile (! ends ·)).filterMap fun e => (e.frame? frameLimit).bind pick

/-- The payloads of a topic since the last clearing. -/
def payloads (frameLimit : Nat) (topic : Topic) : List InboxEvent → List Payload :=
  arrived isClear (Frame.payload? topic) frameLimit

/-- The lines of a process since they were last taken away. -/
def lines (frameLimit : Nat) (process : String) : List InboxEvent → List String :=
  arrived (endsLines process) (Frame.line? process) frameLimit

theorem arrived_concat {α : Type} (ends : InboxEvent → Bool) (pick : Frame → Option α)
    (frameLimit : Nat) (es : List InboxEvent) (e : InboxEvent) :
    arrived ends pick frameLimit (es ++ [e]) =
      if ends e then []
      else arrived ends pick frameLimit es ++ ((e.frame? frameLimit).bind pick).toList := by
  unfold arrived
  cases hend : ends e with
  | true =>
    rw [List.rtakeWhile_concat_neg _ _ _ (by simp [hend])]
    rfl
  | false =>
    rw [List.rtakeWhile_concat_pos _ _ _ (by simp [hend]), List.filterMap_append]
    cases hp : (e.frame? frameLimit).bind pick with
    | none => simp [hp]
    | some a => simp [hp]

end InboxEvent

namespace Inbox

variable {limits : Limits} {frameLimit : Nat}

theorem receive_of_ok {raw : String} {f : Frame} (h : Frame.decode frameLimit raw = .ok f)
    (b : Inbox limits) : b.receive frameLimit raw = (b.routed f, some f.topic) := by
  rw [receive, h]

theorem receive_of_error {raw : String} {cause : FrameError}
    (h : Frame.decode frameLimit raw = .error cause) (b : Inbox limits) :
    b.receive frameLimit raw = (b.dropped, none) := by
  rw [receive, h]

def step (frameLimit : Nat) (b : Inbox limits) : InboxEvent → Inbox limits
  | .receive raw => (b.receive frameLimit raw).1
  | .acknowledge id => b.acknowledge id
  | .dropLines process => b.dropLines process
  | .clear => b.clear

def run (frameLimit : Nat) (b : Inbox limits) (es : List InboxEvent) : Inbox limits :=
  es.foldl (step frameLimit) b

theorem run_cons (b : Inbox limits) (e : InboxEvent) (rest : List InboxEvent) :
    b.run frameLimit (e :: rest) = (b.step frameLimit e).run frameLimit rest := rfl

theorem run_concat (b : Inbox limits) (es : List InboxEvent) (e : InboxEvent) :
    b.run frameLimit (es ++ [e]) = (b.run frameLimit es).step frameLimit e :=
  List.foldl_concat ..

theorem tally_run (b : Inbox limits) (es : List InboxEvent) :
    (b.run frameLimit es).tally =
      ⟨b.tally.routed + (es.filterMap InboxEvent.text?).countP (Frame.reads frameLimit),
        b.tally.dropped + (es.filterMap InboxEvent.text?).countP (! Frame.reads frameLimit ·)⟩ := by
  induction es generalizing b with
  | nil => rfl
  | cons e rest ih =>
    rw [run_cons, ih]
    cases e with
    | receive raw =>
      rw [List.filterMap_cons_some (by rfl), step]
      cases hd : Frame.decode frameLimit raw with
      | ok f =>
        have hr : Frame.reads frameLimit raw = true := by rw [Frame.reads, hd]; rfl
        rw [receive_of_ok hd, List.countP_cons_of_pos hr, List.countP_cons_of_neg (by simp [hr])]
        simp only [routed, Tally.mk.injEq, and_true]
        omega
      | error cause =>
        have hr : Frame.reads frameLimit raw = false := by rw [Frame.reads, hd]; rfl
        rw [receive_of_error hd, List.countP_cons_of_neg (by simp [hr]),
          List.countP_cons_of_pos (by simp [hr])]
        simp only [dropped, Tally.mk.injEq, true_and]
        omega
    | acknowledge id => rfl
    | dropLines process => rfl
    | clear => rfl

theorem channels_of_not_reads {raw : String} (h : Frame.reads frameLimit raw = false)
    (b : Inbox limits) : (b.step frameLimit (.receive raw)).channels = b.channels := by
  cases hd : Frame.decode frameLimit raw with
  | ok f =>
    rw [Frame.reads, hd] at h
    cases h
  | error cause =>
    rw [step, receive_of_error hd]
    rfl

theorem part_step {r : Retention} {part : Channels limits → Channel r Payload} {topic : Topic}
    (h : Channels.Takes topic part) (b : Inbox limits) (e : InboxEvent) :
    part (b.step frameLimit e).channels =
      if e.isClear then ∅
      else ((e.frame? frameLimit).bind (Frame.payload? topic)).toList.foldl Channel.ingest
        (part b.channels) := by
  cases e with
  | receive raw =>
    cases hd : Frame.decode frameLimit raw with
    | ok f =>
      rw [step, receive_of_ok hd, InboxEvent.frame?, hd]
      exact h.ingest b.channels f
    | error cause =>
      rw [step, receive_of_error hd, InboxEvent.frame?, hd]
      rfl
  | acknowledge id => exact h.acknowledge b.channels id
  | dropLines process => exact h.dropLines b.channels process
  | clear => exact h.empty

theorem part_run {r : Retention} {part : Channels limits → Channel r Payload} {topic : Topic}
    (h : Channels.Takes topic part) (es : List InboxEvent) :
    part ((∅ : Inbox limits).run frameLimit es).channels =
      .ofArrived (InboxEvent.payloads frameLimit topic es) := by
  induction es using List.reverseRecOn with
  | nil => exact h.empty.trans Channel.ofArrived_nil.symm
  | append_singleton es e ih =>
    rw [run_concat, part_step h, ih, InboxEvent.payloads, InboxEvent.arrived_concat]
    cases hclear : e.isClear with
    | true => exact Channel.ofArrived_nil.symm
    | false => exact Channel.foldl_ingest_ofArrived _ _

theorem lines?_step (b : Inbox limits) (e : InboxEvent) (process : String) :
    (b.step frameLimit e).channels.lines? process =
      if e.endsLines process then none
      else match (e.frame? frameLimit).bind (Frame.line? process) with
        | some line => some (((b.channels.lines? process).getD ∅).ingest line)
        | none => b.channels.lines? process := by
  cases e with
  | receive raw =>
    cases hd : Frame.decode frameLimit raw with
    | ok f =>
      rw [step, receive_of_ok hd, InboxEvent.frame?, hd]
      exact Channels.lines?_ingest b.channels f process
    | error cause =>
      rw [step, receive_of_error hd, InboxEvent.frame?, hd]
      rfl
  | acknowledge id => rfl
  | dropLines dropped =>
    refine (Channels.lines?_dropLines b.channels dropped process).trans ?_
    by_cases hp : process = dropped
    · simp [InboxEvent.endsLines, hp]
    · simp [InboxEvent.endsLines, InboxEvent.frame?, hp, Ne.symm hp]
  | clear => rfl

theorem lines?_run (process : String) (es : List InboxEvent) :
    ((∅ : Inbox limits).run frameLimit es).channels.lines? process =
      if InboxEvent.lines frameLimit process es = [] then none
      else some (.ofArrived (InboxEvent.lines frameLimit process es)) := by
  induction es using List.reverseRecOn with
  | nil => rfl
  | append_singleton es e ih =>
    rw [run_concat, lines?_step, ih, InboxEvent.lines, InboxEvent.arrived_concat,
      ← InboxEvent.lines]
    cases hend : e.endsLines process with
    | true => rfl
    | false =>
      cases hline : (e.frame? frameLimit).bind (Frame.line? process) with
      | none => simp
      | some line =>
        by_cases hnil : InboxEvent.lines frameLimit process es = []
        · have hfirst : (∅ : LogChannel limits).ingest line = .ofArrived [line] := by
            rw [← Channel.ofArrived_nil, Channel.ingest_ofArrived, List.nil_append]
          simp [hnil, hfirst]
        · simp [hnil, Channel.ingest_ofArrived]

theorem alerts_step (b : Inbox limits) (e : InboxEvent) :
    (b.step frameLimit e).channels.alerts.items =
      (e.alertEvent? frameLimit).toList.foldl (AlertEvent.onQueue limits.alerts)
        b.channels.alerts.items := by
  cases e with
  | receive raw =>
    cases hd : Frame.decode frameLimit raw with
    | ok f =>
      rw [step, receive_of_ok hd, InboxEvent.alertEvent?, hd]
      cases f <;> rfl
    | error cause =>
      rw [step, receive_of_error hd, InboxEvent.alertEvent?, hd]
      rfl
  | acknowledge id => rfl
  | dropLines process => rfl
  | clear => rfl

/-- The alerts are those of a queue that is told of nothing else. -/
theorem alerts_run (b : Inbox limits) (es : List InboxEvent) :
    (b.run frameLimit es).channels.alerts.items =
      (es.filterMap (·.alertEvent? frameLimit)).foldl (AlertEvent.onQueue limits.alerts)
        b.channels.alerts.items := by
  induction es generalizing b with
  | nil => rfl
  | cons e rest ih =>
    rw [run_cons, ih, alerts_step]
    cases he : e.alertEvent? frameLimit with
    | none => rw [List.filterMap_cons_none he]; rfl
    | some a => rw [List.filterMap_cons_some he]; rfl

theorem sameIn_step {b c : Inbox limits} {n : ChannelName}
    (h : Channels.SameIn b.channels c.channels n) (e : InboxEvent) :
    Channels.SameIn (b.step frameLimit e).channels (c.step frameLimit e).channels n := by
  cases n with
  | processes =>
    have hp : b.channels.processes = c.channels.processes := h
    rw [Channels.SameIn, part_step Channels.takes_processes, part_step Channels.takes_processes, hp]
  | cluster =>
    have hp : b.channels.cluster = c.channels.cluster := h
    rw [Channels.SameIn, part_step Channels.takes_cluster, part_step Channels.takes_cluster, hp]
  | deployments =>
    have hp : b.channels.deployments = c.channels.deployments := h
    rw [Channels.SameIn, part_step Channels.takes_deployments,
      part_step Channels.takes_deployments, hp]
  | metrics =>
    have hp : b.channels.metrics = c.channels.metrics := h
    rw [Channels.SameIn, part_step Channels.takes_metrics, part_step Channels.takes_metrics, hp]
  | alerts =>
    have hp : b.channels.alerts = c.channels.alerts := h
    apply Channel.ext
    show (b.step frameLimit e).channels.alerts.items = (c.step frameLimit e).channels.alerts.items
    rw [alerts_step, alerts_step, hp]
  | lines process =>
    have hp : b.channels.lines? process = c.channels.lines? process := h
    rw [Channels.SameIn, lines?_step, lines?_step, hp]

theorem sameIn_of_not_concerns {e : InboxEvent} {n : ChannelName}
    (h : e.concerns frameLimit n = false) (b : Inbox limits) :
    Channels.SameIn (b.step frameLimit e).channels b.channels n := by
  cases e with
  | receive raw =>
    cases hd : Frame.decode frameLimit raw with
    | ok f =>
      have hne : f.channel ≠ n := by simpa [InboxEvent.concerns, hd, Except.toOption] using h
      rw [step, receive_of_ok hd]
      exact Channels.sameIn_ingest hne
    | error cause =>
      rw [step, receive_of_error hd]
      exact Channels.sameIn_refl _ n
  | acknowledge id =>
    have hne : n ≠ .alerts := by simpa [InboxEvent.concerns] using h
    cases n with
    | alerts => exact absurd rfl hne
    | _ => rfl
  | dropLines p =>
    have hne : n ≠ .lines p := by simpa [InboxEvent.concerns] using h
    cases n with
    | lines process =>
      have hp : process ≠ p := fun hp => hne (congrArg ChannelName.lines hp)
      exact (Channels.lines?_dropLines ..).trans (if_neg hp)
    | _ => rfl
  | clear => cases h

/-- A channel is what the events about it have made of it. -/
theorem sameIn_filter {b c : Inbox limits} {n : ChannelName}
    (h : Channels.SameIn b.channels c.channels n) (es : List InboxEvent) :
    Channels.SameIn (b.run frameLimit es).channels
      (c.run frameLimit (es.filter (·.concerns frameLimit n))).channels n := by
  induction es generalizing b c with
  | nil => exact h
  | cons e rest ih =>
    cases he : e.concerns frameLimit n with
    | true =>
      rw [List.filter_cons_of_pos he]
      exact ih (sameIn_step h e)
    | false =>
      rw [List.filter_cons_of_neg (by simp [he])]
      exact ih ((sameIn_of_not_concerns he b).trans h)

/-- Whatever an inbox was told, its tally counts the texts that read and those that do not, which
change nothing. Every channel holds the most recent of what came for it since it was last emptied:
the metrics and the lines of a process as many as they may, in the order of their arrival, a
snapshot the last one. The alerts are those of a queue that heard of alerts, acknowledgements and
clearings alone. And no channel would differ had nothing happened that is not about it. -/
theorem channels_project (limits : Limits) (frameLimit : Nat) (es : List InboxEvent) :
    let b := (∅ : Inbox limits).run frameLimit es
    let texts := es.filterMap InboxEvent.text?
    b.tally.routed = texts.countP (Frame.reads frameLimit) ∧
    b.tally.dropped = texts.countP (! Frame.reads frameLimit ·) ∧
    (∀ raw, Frame.reads frameLimit raw = false →
      (b.receive frameLimit raw).1.channels = b.channels) ∧
    b.channels.metrics.items =
      (InboxEvent.payloads frameLimit .metricsSample es).rtake limits.metrics ∧
    b.channels.processes.newest? =
      (InboxEvent.payloads frameLimit .processSnapshot es).getLast? ∧
    b.channels.cluster.newest? =
      (InboxEvent.payloads frameLimit .clusterSnapshot es).getLast? ∧
    b.channels.deployments.newest? =
      (InboxEvent.payloads frameLimit .deploymentSnapshot es).getLast? ∧
    (∀ process,
      (b.channels.lines? process = none ↔ InboxEvent.lines frameLimit process es = []) ∧
      ∀ held, b.channels.lines? process = some held →
        held.items = (InboxEvent.lines frameLimit process es).rtake limits.logLines) ∧
    b.channels.alerts.items =
      (es.filterMap (·.alertEvent? frameLimit)).foldl (AlertEvent.onQueue limits.alerts) [] ∧
    ∀ n, Channels.SameIn b.channels
      ((∅ : Inbox limits).run frameLimit (es.filter (·.concerns frameLimit n))).channels n := by
  intro b texts
  have htally : b.tally = _ := tally_run (∅ : Inbox limits) es
  have hmetrics : b.channels.metrics = _ := part_run Channels.takes_metrics es
  have hprocesses : b.channels.processes = _ := part_run Channels.takes_processes es
  have hcluster : b.channels.cluster = _ := part_run Channels.takes_cluster es
  have hdeployments : b.channels.deployments = _ := part_run Channels.takes_deployments es
  refine ⟨?_, ?_, fun raw h => channels_of_not_reads h b, ?_, ?_, ?_, ?_, ?_,
    alerts_run (∅ : Inbox limits) es, fun n => sameIn_filter (Channels.sameIn_refl _ n) es⟩
  · rw [htally]
    exact Nat.zero_add _
  · rw [htally]
    exact Nat.zero_add _
  · rw [hmetrics, Channel.items_ofArrived]
  · rw [hprocesses, Channel.newest?_ofArrived]
  · rw [hcluster, Channel.newest?_ofArrived]
  · rw [hdeployments, Channel.newest?_ofArrived]
  · intro process
    have hlines : b.channels.lines? process = _ := lines?_run process es
    by_cases hnil : InboxEvent.lines frameLimit process es = []
    · rw [hlines, if_pos hnil]
      exact ⟨by simp [hnil], nofun⟩
    · rw [hlines, if_neg hnil]
      refine ⟨by simp [hnil], ?_⟩
      rintro held ⟨rfl⟩
      exact Channel.items_ofArrived _

/-- Of three lines two are held, whatever comes between them. -/
theorem recent_lines_of_web :
    let line (text : String) : InboxEvent := .receive (Frame.logLine ⟨"web", text⟩).encode
    let other : InboxEvent := .receive (Frame.logLine ⟨"db", "ready"⟩).encode
    let b := (∅ : Inbox { logLines := 2 }).run 100
      [line "one", .receive "no frame", line "two", .dropLines "db", other, line "three"]
    (b.channels.lines? "web").map (·.items) = some ["two", "three"] := by
  intro line other b
  have hlines : InboxEvent.lines 100 "web"
      [line "one", .receive "no frame", line "two", .dropLines "db", other, line "three"] =
        ["one", "two", "three"] := by
    decide +kernel
  obtain ⟨-, -, -, -, -, -, -, hrecent, -⟩ := channels_project { logLines := 2 } 100
      [line "one", .receive "no frame", line "two", .dropLines "db", other, line "three"]
  obtain ⟨hnone, hsome⟩ := hrecent "web"
  rw [hlines] at hnone hsome
  cases hheld : b.channels.lines? "web" with
  | none => exact absurd (hnone.1 hheld) (List.cons_ne_nil _ _)
  | some held => exact congrArg some (hsome held hheld)

end Inbox

end OpsConsole
