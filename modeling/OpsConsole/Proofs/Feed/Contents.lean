import OpsConsole.Proofs.Feed.Codec
import OpsConsole.Proofs.Feed.Projection
import OpsConsole.Proofs.Link.Transition

/-!
# What the channels may hold

Only a frame that was read goes into a channel, and what was read is admissible: no payload is
null, a log line is not empty, and the process it names is not blank. Whatever is evicted,
acknowledged, dropped or cleared later, the channels hold nothing else. A process that is known has
a line, unless lines are not held at all, since its channel begins with one and goes as a whole.

What a connection has received is what its inbox was told, and it is told of texts,
acknowledgements, dropped lines and teardowns alone. So the same holds wherever a run has led.
-/

namespace OpsConsole

open Json

namespace Channel

variable {r : Retention} {α : Type} {P : α → Prop} {c : Channel r α}

/-- Whether a channel holds only items with a property. -/
def All (P : α → Prop) (c : Channel r α) : Prop := ∀ a ∈ c.held, P a

theorem all_empty : (∅ : Channel r α).All P := nofun

theorem All.ingest (h : c.All P) {a : α} (ha : P a) : (c.ingest a).All P := by
  intro b hb
  obtain rfl | hold := List.mem_cons.1 (List.mem_of_mem_take hb)
  · exact ha
  · exact h b hold

theorem All.retain (h : c.All P) (keep : α → Bool) : (c.retain keep).All P :=
  fun a ha => h a (List.mem_of_mem_filter ha)

theorem mem_items {a : α} : a ∈ c.items ↔ a ∈ c.held := by
  cases r with
  | newestFirst n => rfl
  | _ => exact List.mem_reverse

theorem All.newest?_ne {a : α} (h : c.All (· ≠ a)) : c.newest? ≠ some a :=
  fun ha => h a (List.mem_of_head? ha) rfl

theorem All.not_mem_items {a : α} (h : c.All (· ≠ a)) : a ∉ c.items :=
  fun ha => h a (mem_items.1 ha) rfl

theorem size_ingest_pos (hr : 0 < r.capacity) (c : Channel r α) (a : α) :
    0 < (c.ingest a).size := by
  rw [size, held_ingest, List.length_take, List.length_cons]
  exact Nat.lt_min.2 ⟨hr, Nat.succ_pos _⟩

theorem isEmpty_iff_newest? : c.isEmpty = true ↔ c.newest? = none := by
  rw [isEmpty, newest?, List.isEmpty_iff, List.head?_eq_none_iff]

theorem isEmpty_iff_size : c.isEmpty = true ↔ c.size = 0 := by
  rw [isEmpty, size, List.isEmpty_iff, List.length_eq_zero_iff]

end Channel

namespace Channels

variable {limits : Limits} {c : Channels limits}

/-- What the lines under the name of a process are like. -/
structure SoundLines (process : String) (lines : LogChannel limits) : Prop where
  named : Text.trim process ≠ ""
  filled : lines.All (· ≠ "")
  kept : 1 ≤ limits.logLines → 0 < lines.size

/-- What the channels are like that only admissible frames went into. -/
structure Sound (c : Channels limits) : Prop where
  processes : c.processes.All (· ≠ .null)
  cluster : c.cluster.All (· ≠ .null)
  deployments : c.deployments.All (· ≠ .null)
  metrics : c.metrics.All (· ≠ .null)
  alerts : c.alerts.All (· ≠ .null)
  lines : ∀ process lines, c.lines? process = some lines → SoundLines process lines

theorem sound_empty : (∅ : Channels limits).Sound :=
  ⟨Channel.all_empty, Channel.all_empty, Channel.all_empty, Channel.all_empty, Channel.all_empty,
    nofun⟩

theorem Sound.soundLines_ingest (h : c.Sound) {l : LogLine}
    (hl : (Frame.logLine l).Admissible) :
    SoundLines l.processId (((c.lines? l.processId).getD ∅).ingest l.line) := by
  have hbefore : ((c.lines? l.processId).getD ∅).All (· ≠ "") := by
    cases hlines : c.lines? l.processId with
    | none => exact Channel.all_empty
    | some lines => exact (h.lines _ _ hlines).filled
  refine ⟨hl.1, hbefore.ingest hl.2, fun hlimit => ?_⟩
  have hcapacity : 0 < (Retention.slidingWindow limits.logLines).capacity := hlimit
  exact Channel.size_ingest_pos hcapacity _ _

theorem Sound.ingest (h : c.Sound) {f : Frame} (hf : f.Admissible) : (c.ingest f).Sound := by
  cases f with
  | processSnapshot v => exact { h with processes := h.processes.ingest hf.1 }
  | clusterSnapshot v => exact { h with cluster := h.cluster.ingest hf.1 }
  | deploymentSnapshot v => exact { h with deployments := h.deployments.ingest hf.1 }
  | metricsSample v => exact { h with metrics := h.metrics.ingest hf.1 }
  | alert v => exact { h with alerts := h.alerts.ingest hf.1 }
  | logLine l =>
    refine ⟨h.processes, h.cluster, h.deployments, h.metrics, h.alerts, ?_⟩
    intro process lines hlines
    rw [lines?_ingest, Frame.line?] at hlines
    by_cases hp : l.processId = process
    · subst hp
      rw [if_pos rfl] at hlines
      cases hlines
      exact h.soundLines_ingest hf
    · rw [if_neg hp] at hlines
      exact h.lines process lines hlines

theorem Sound.acknowledge (h : c.Sound) (id : String) : (c.acknowledge id).Sound :=
  { h with alerts := h.alerts.retain (survives id) }

theorem Sound.dropLines (h : c.Sound) (dropped : String) : (c.dropLines dropped).Sound := by
  refine ⟨h.processes, h.cluster, h.deployments, h.metrics, h.alerts, ?_⟩
  intro process lines hlines
  rw [lines?_dropLines] at hlines
  by_cases hp : process = dropped
  · rw [if_pos hp] at hlines
    cases hlines
  · rw [if_neg hp] at hlines
    exact h.lines process lines hlines

theorem exists_lines?_of_mem_keys {process : String} (h : process ∈ c.logs.keys) :
    ∃ lines, c.lines? process = some lines :=
  TextMap.mem_keys_iff.1 h

/-- Where lines are held, the channels are empty once nothing can be read from any of them. -/
theorem Sound.isEmpty_iff (h : c.Sound) (hlimit : 1 ≤ limits.logLines) :
    c.isEmpty = true ↔ c.processes.newest? = none ∧ c.cluster.newest? = none ∧
      c.deployments.newest? = none ∧ c.metrics.size = 0 ∧ c.alerts.size = 0 ∧
      ∀ process lines, c.lines? process = some lines → lines.size = 0 := by
  have hlogs : c.logs.isEmpty = true ↔
      ∀ process lines, c.lines? process = some lines → lines.size = 0 := by
    rw [TextMap.isEmpty_iff]
    constructor
    · intro hnone process lines hlines
      cases (hnone process).symm.trans hlines
    · intro hzero process
      cases hlines : c.lines? process with
      | none => exact hlines
      | some lines =>
        have hpos := (h.lines process lines hlines).kept hlimit
        rw [hzero process lines hlines] at hpos
        exact (Nat.lt_irrefl 0 hpos).elim
  simp only [isEmpty, Bool.and_eq_true, hlogs, Channel.isEmpty_iff_newest?, and_assoc]
  rw [← Channel.isEmpty_iff_newest? (c := c.metrics), ← Channel.isEmpty_iff_newest? (c := c.alerts),
    Channel.isEmpty_iff_size, Channel.isEmpty_iff_size]

end Channels

namespace Inbox

variable {limits : Limits} {frameLimit : Nat} {b : Inbox limits}

theorem sound_step (h : b.channels.Sound) (e : InboxEvent) :
    (b.step frameLimit e).channels.Sound := by
  cases e with
  | receive raw =>
    cases hread : Frame.decode frameLimit raw with
    | ok f =>
      rw [step, receive_of_ok hread]
      exact h.ingest (Frame.admissible_of_decode hread)
    | error cause =>
      rw [step, receive_of_error hread]
      exact h
  | acknowledge id => exact h.acknowledge id
  | dropLines process => exact h.dropLines process
  | clear => exact Channels.sound_empty

theorem sound_run (h : b.channels.Sound) (es : List InboxEvent) :
    (b.run frameLimit es).channels.Sound := by
  induction es generalizing b with
  | nil => exact h
  | cons e rest ih => exact ih (sound_step h e)

end Inbox

namespace Connection

variable {o : LinkOptions}

/-- What the inbox is told of an event, if anything. -/
def told? (c : Connection o) : LinkEvent → Option InboxEvent
  | .connect s => if c.tearsDown (.connect s) then some .clear else none
  | .disconnect => some .clear
  | .received link raw => if c.phase.link? = some link then some (.receive raw) else none
  | .unsubscribe process => some (.dropLines process)
  | .acknowledge id => some (.acknowledge id)
  | _ => none

theorem inbox_step (c : Connection o) (e : LinkEvent) :
    (c.step e).1.inbox = (c.told? e).toList.foldl (Inbox.step o.frameLimit) c.inbox := by
  cases e with
  | connect s =>
    by_cases hsame : c.phase.isActive ∧ c.token = some s.token
    · have hkeep : c.tearsDown (.connect s) = false := by simp [tearsDown, hsame.2]
      rw [step, connect_of_same hsame, told?, hkeep]
      rfl
    · rw [step, connect_of_not_same hsame, told?, joined]
      cases c.tearsDown (.connect s) <;> rfl
  | opened link =>
    by_cases hlink : c.phase = .connecting link
    · rw [step, opened_of_eq hlink]
      rfl
    · rw [step, opened_of_ne hlink]
      rfl
  | received link raw =>
    by_cases hlink : c.phase.link? = some link
    · rw [step, received_of_eq hlink, told?, if_pos hlink]
      rfl
    · rw [step, received_of_ne hlink, told?, if_neg hlink]
      rfl
  | lost link =>
    by_cases hlink : c.phase.link? = some link
    · rw [step, lost_of_eq hlink]
      rfl
    · rw [step, lost_of_ne hlink]
      rfl
  | due timer =>
    cases hdue : c.awaits timer with
    | false =>
      rw [step, due_of_not_awaits hdue]
      rfl
    | true =>
      rw [step, due_of_awaits hdue, openLink]
      cases c.token <;> rfl
  | _ => rfl

theorem inbox_run (c : Connection o) (es : List LinkEvent) :
    ∃ told, (c.run es).1.inbox = c.inbox.run o.frameLimit told := by
  induction es generalizing c with
  | nil => exact ⟨[], rfl⟩
  | cons e rest ih =>
    obtain ⟨told, hrest⟩ := ih (c.step e).1
    refine ⟨(c.told? e).toList ++ told, ?_⟩
    rw [run_cons, hrest, inbox_step, Inbox.run, Inbox.run, List.foldl_append]

theorem sound_run (es : List LinkEvent) :
    ((start : Connection o).run es).1.inbox.channels.Sound := by
  obtain ⟨told, hrun⟩ := inbox_run (start : Connection o) es
  rw [hrun]
  exact Inbox.sound_run Channels.sound_empty told

/-- Wherever a run has led, whatever texts arrived: no process that is known is blank, none of its
lines is empty, and no payload that is held is null. No channel holds more than it may, and neither
do the lines of any one process. Where lines may be held at all, each process that is known has one,
and the channels are empty exactly when there is nothing in any of them to be read. -/
theorem channels_hold_sound (es : List LinkEvent) :
    let c := ((start : Connection o).run es).1.inbox.channels
    (∀ process ∈ c.logs.keys, Text.trim process ≠ "") ∧
    (∀ process lines, c.lines? process = some lines →
      "" ∉ lines.items ∧ lines.size ≤ o.limits.logLines) ∧
    c.processes.newest? ≠ some .null ∧ c.cluster.newest? ≠ some .null ∧
    c.deployments.newest? ≠ some .null ∧ .null ∉ c.metrics.items ∧ .null ∉ c.alerts.items ∧
    c.processes.size ≤ 1 ∧ c.cluster.size ≤ 1 ∧ c.deployments.size ≤ 1 ∧
    c.metrics.size ≤ o.limits.metrics ∧ c.alerts.size ≤ o.limits.alerts ∧
    (1 ≤ o.limits.logLines →
      (∀ process ∈ c.logs.keys, ∃ lines, c.lines? process = some lines ∧ 1 ≤ lines.size) ∧
      (c.isEmpty = true ↔ c.processes.newest? = none ∧ c.cluster.newest? = none ∧
        c.deployments.newest? = none ∧ c.metrics.size = 0 ∧ c.alerts.size = 0 ∧
        ∀ process lines, c.lines? process = some lines → lines.size = 0)) := by
  intro c
  have h : c.Sound := sound_run es
  refine ⟨?_, ?_, h.processes.newest?_ne, h.cluster.newest?_ne, h.deployments.newest?_ne,
    h.metrics.not_mem_items, h.alerts.not_mem_items, c.processes.bounded, c.cluster.bounded,
    c.deployments.bounded, c.metrics.bounded, c.alerts.bounded, ?_⟩
  · intro process hkey
    obtain ⟨lines, hlines⟩ := Channels.exists_lines?_of_mem_keys hkey
    exact (h.lines process lines hlines).named
  · intro process lines hlines
    exact ⟨(h.lines process lines hlines).filled.not_mem_items, lines.bounded⟩
  · intro hlimit
    refine ⟨?_, h.isEmpty_iff hlimit⟩
    intro process hkey
    obtain ⟨lines, hlines⟩ := Channels.exists_lines?_of_mem_keys hkey
    exact ⟨lines, hlines, (h.lines process lines hlines).kept hlimit⟩

/-- Of a null payload, a blank process and an empty line nothing is held; of a second line for a
process that may have one, the second is. Once it is dropped the channels are empty. -/
theorem refused_texts_not_held :
    let o : LinkOptions := ⟨BackoffPolicy.standard.schedule, fun _ => 0, { logLines := 1 },
      Frame.defaultLimit⟩
    let s : Session := ⟨⟨"token", by decide, by decide⟩, default⟩
    let es : List LinkEvent := [.connect s, .opened 1, .received 1 (Frame.alert .null).encode,
      .received 1 (Frame.logLine ⟨" ", "ready"⟩).encode,
      .received 1 (Frame.logLine ⟨"web", ""⟩).encode,
      .received 1 (Frame.logLine ⟨"web", "one"⟩).encode,
      .received 1 (Frame.logLine ⟨"web", "two"⟩).encode]
    let c := ((start : Connection o).run es).1.inbox.channels
    let d := ((start : Connection o).run (es ++ [.unsubscribe "web"])).1.inbox.channels
    c.logs.keys = ["web"] ∧ c.alerts.size = 0 ∧ 1 ≤ o.limits.logLines ∧
      (∃ lines, c.lines? "web" = some lines ∧ 1 ≤ lines.size) ∧ c.isEmpty = false ∧
      d.isEmpty = true := by
  intro o s es c d
  obtain ⟨hkeys, halerts⟩ : c.logs.keys = ["web"] ∧ c.alerts.size = 0 := by decide +kernel
  obtain ⟨hgone, hnothing⟩ : d.logs.keys = [] ∧ d.processes.newest? = none ∧
      d.cluster.newest? = none ∧ d.deployments.newest? = none ∧ d.metrics.size = 0 ∧
      d.alerts.size = 0 := by
    decide +kernel
  obtain ⟨-, -, -, -, -, -, -, -, -, -, -, -, hlines⟩ := channels_hold_sound (o := o) es
  obtain ⟨-, -, -, -, -, -, -, -, -, -, -, -, hempty⟩ :=
    channels_hold_sound (o := o) (es ++ [.unsubscribe "web"])
  obtain ⟨hheld, hiff⟩ := hlines (Nat.le_refl 1)
  have hweb : ∃ lines, c.lines? "web" = some lines ∧ 1 ≤ lines.size :=
    hheld "web" (hkeys ▸ List.mem_singleton.2 rfl)
  refine ⟨hkeys, halerts, Nat.le_refl 1, hweb, ?_, ?_⟩
  · obtain ⟨lines, hlines, hsize⟩ := hweb
    refine Bool.eq_false_iff.2 fun hc => ?_
    obtain ⟨-, -, -, -, -, hzero⟩ := hiff.1 hc
    rw [hzero "web" lines hlines] at hsize
    exact Nat.not_succ_le_zero 0 hsize
  · obtain ⟨hprocesses, hcluster, hdeployments, hmetrics, halerts⟩ := hnothing
    refine (hempty (Nat.le_refl 1)).2.2
      ⟨hprocesses, hcluster, hdeployments, hmetrics, halerts, ?_⟩
    intro process lines hprocess
    have hkey : process ∈ d.logs.keys := TextMap.mem_keys_iff.2 ⟨lines, hprocess⟩
    rw [hgone] at hkey
    cases hkey

end Connection

end OpsConsole
