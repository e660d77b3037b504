import OpsConsole.Link.Client
import OpsConsole.Link.Task
import OpsConsole.Proofs.Feed.Projection
import OpsConsole.Proofs.Link.Staleness

/-!
# From a link to the channels

The task of a link reports that the link is up, then each text that comes before the link ends, in
order, then once that it is lost, and nothing after that. A link that never comes up is only
reported lost, and a task that is told to close its link reports nothing from then on.

The reports of a link stand in one queue with those of earlier links and timers, which are stale.
The client that works off the queue takes in the texts of its link and nothing else: the channels
end as if the frames among them had gone in one after the other.
-/

namespace OpsConsole

/-- What a peer sends over a link, or what becomes of the link. -/
inductive Delivery
  | message (m : Message)
  | failure (cause : String)
  | ending
  deriving DecidableEq, Inhabited

namespace Delivery

def input : Delivery → LinkInput
  | message m => .arrived m
  | failure cause => .failed cause
  | ending => .ended

def text? : Delivery → Option String
  | message (.text raw) => some raw
  | _ => none

/-- The reason for which the link ends with this, if it does. -/
def reason? : Delivery → Option String
  | message m => m.ending?
  | failure cause => some cause
  | ending => some "stream ended"

/-- The texts that come before the link ends. -/
def texts (ds : List Delivery) : List String :=
  (ds.takeWhile (·.reason?.isNone)).filterMap text?

/-- The reason for which the link ends first, if it does. -/
def loss? (ds : List Delivery) : Option String := ds.findSome? reason?

end Delivery

/-- Messages that are neither texts nor end a link. -/
def Message.isSilent : Message → Bool
  | binary _ | ping | pong => true
  | text _ | close _ => false

/-! ### The task -/

namespace LinkTask

theorem run_cons (task : LinkTask) (i : LinkInput) (rest : List LinkInput) :
    task.run (i :: rest) =
      (((task.step i).1.run rest).1, (task.step i).2 ++ ((task.step i).1.run rest).2) := rfl

theorem run_done (inputs : List LinkInput) : done.run inputs = (done, []) := by
  induction inputs with
  | nil => rfl
  | cons i rest ih => rw [run_cons, step, ih] <;> simp

theorem step_closeWanted (task : LinkTask) : task.step .closeWanted = (done, []) := by
  cases task <;> rfl

theorem step_silent {m : Message} (h : m.isSilent = true) (task : LinkTask) :
    task.step (.arrived m) = (task, []) := by
  cases m <;> cases h <;> cases task <;> rfl

theorem step_delivery (d : Delivery) :
    serving.step d.input =
      match d.reason? with
      | some reason => (done, [.lost reason])
      | none => (serving, d.text?.toList.map .received) := by
  cases d with
  | message m =>
    cases m with
    | close reason => cases reason <;> rfl
    | _ => rfl
  | _ => rfl

/-- While a link is up its task reports the texts until the link ends, and then that it is lost. -/
theorem run_deliveries (ds : List Delivery) :
    (serving.run (ds.map Delivery.input)).2 =
      (Delivery.texts ds).map .received ++ (Delivery.loss? ds).toList.map .lost := by
  induction ds with
  | nil => rfl
  | cons d ds ih =>
    rw [List.map_cons, run_cons, step_delivery]
    cases hreason : d.reason? with
    | some reason =>
      simp [run_done, Delivery.texts, Delivery.loss?, hreason]
    | none =>
      simp only [ih]
      cases htext : d.text? <;> simp [Delivery.texts, Delivery.loss?, hreason, htext]

/-- All that the task of a link reports. -/
def reports (feed : Url) (token : BearerToken) (inputs : List LinkInput) : List Report :=
  (start feed token).2 ++ ((start feed token).1.run inputs).2

variable {feed : Url} {token : BearerToken}

theorem reports_of_error {e : HandshakeError} (h : Handshake.request feed token = .error e)
    (inputs : List LinkInput) : reports feed token inputs = [.lost e.message] := by
  rw [reports, start, h, run_done]
  rfl

theorem reports_of_ok {handshake : Handshake} (h : Handshake.request feed token = .ok handshake)
    (inputs : List LinkInput) : reports feed token inputs = (opening.run inputs).2 := by
  rw [reports, start, h]
  rfl

theorem reports_refused {handshake : Handshake}
    (h : Handshake.request feed token = .ok handshake) (cause : String) (rest : List LinkInput) :
    reports feed token (.refused cause :: rest) = [.lost ("connect: " ++ cause)] := by
  rw [reports_of_ok h, run_cons, step, run_done]
  rfl

theorem reports_accepted {handshake : Handshake}
    (h : Handshake.request feed token = .ok handshake) (ds : List Delivery) :
    reports feed token (.accepted :: ds.map Delivery.input) =
      .opened :: ((Delivery.texts ds).map .received ++ (Delivery.loss? ds).toList.map .lost) := by
  rw [reports_of_ok h, run_cons, step, run_deliveries]
  rfl

theorem reports_append (feed : Url) (token : BearerToken) (a b : List LinkInput) :
    reports feed token (a ++ b) =
      reports feed token a ++ (((start feed token).1.run a).1.run b).2 := by
  rw [reports, reports, run, Machine.run_append, List.append_assoc]
  rfl

theorem reports_closeWanted (before after : List LinkInput) :
    reports feed token (before ++ .closeWanted :: after) = reports feed token before := by
  rw [reports_append, run_cons, step_closeWanted, run_done]
  exact List.append_nil _

theorem reports_silent {m : Message} (h : m.isSilent = true) (before after : List LinkInput) :
    reports feed token (before ++ .arrived m :: after) =
      reports feed token (before ++ after) := by
  rw [reports_append, run_cons, step_silent h, reports_append]
  rfl

end LinkTask

/-! ### The queue -/

namespace Connection

variable {o : LinkOptions} {c : Connection o} {e : LinkEvent} {link timers : Nat}

/-- Where a connection stands from the opening of a link on until the timer after it runs out, when
so many timers were scheduled before. -/
inductive Attends (link timers : Nat) (c : Connection o) : Prop
  | held (hlink : c.phase.link? = some link) (htimers : c.timers = timers)
  | lost {delay : Nat} (hphase : c.phase = .reconnecting (timers + 1) delay)

theorem Attends.stale (h : c.Attends link timers) (he : e.isReport = true)
    (hlink : e.link? ≠ some link) (htimers : ∀ n, e.timer? = some n → n ≤ timers) :
    c.Stale e := by
  cases hl : e.link? with
  | some n =>
    refine stale_of_link hl fun hn => ?_
    cases h with
    | held hheld => exact hlink (hl.trans (hn.symm.trans hheld))
    | lost hphase =>
      rw [hphase] at hn
      cases hn
  | none =>
    have htimer : e.timer?.isSome = true := by simpa [LinkEvent.isReport, hl] using he
    obtain ⟨n, hn⟩ := Option.isSome_iff_exists.1 htimer
    -- No timer is awaited while the link is held, and afterwards only one that is new.
    refine stale_of_timer hn fun hawaited => ?_
    cases h with
    | held hheld =>
      cases hphase : c.phase <;> simp [hphase, Phase.link?, Phase.timer?] at hheld hawaited
    | lost hphase =>
      have hsame : timers + 1 = n := by simpa [hphase, Phase.timer?] using hawaited
      have hmost := htimers n hn
      omega

theorem Attends.step (h : c.Attends link timers) (he : e.link? = some link) :
    (c.step e).1.Attends link timers := by
  cases h with
  | @lost delay hphase =>
    have hstale : c.Stale e := stale_of_link he (by simp [hphase, Phase.link?])
    rw [(inert_of_stale hstale).1]
    exact .lost hphase
  | held hlink htimers =>
    cases e with
    | opened n =>
      cases he
      by_cases hphase : c.phase = .connecting link
      · rw [Connection.step, opened_of_eq hphase]
        exact .held rfl htimers
      · rw [Connection.step, opened_of_ne hphase]
        exact .held hlink htimers
    | received n raw =>
      cases he
      rw [Connection.step, received_of_eq hlink]
      exact .held hlink htimers
    | lost n =>
      cases he
      rw [Connection.step, lost_of_eq hlink, ← htimers]
      exact .lost rfl
    | _ => cases he

/-- In a queue only the reports on the link that is attended count. -/
theorem Attends.run_eq (h : c.Attends link timers) {queue : List LinkEvent}
    (hreports : ∀ e ∈ queue, e.isReport = true)
    (htimers : ∀ e ∈ queue, ∀ n, e.timer? = some n → n ≤ timers) :
    c.run queue = c.run (queue.filter (·.link? = some link)) := by
  induction queue generalizing c with
  | nil => rfl
  | cons e queue ih =>
    obtain ⟨hreport, hreports⟩ := List.forall_mem_cons.1 hreports
    obtain ⟨htimer, htimers⟩ := List.forall_mem_cons.1 htimers
    by_cases he : e.link? = some link
    · rw [List.filter_cons_of_pos (by simpa using he), run_cons, run_cons,
        ih (h.step he) hreports htimers]
    · rw [List.filter_cons_of_neg (by simpa using he), run_cons,
        (inert_of_stale (h.stale hreport he htimer)).1, ih h hreports htimers]
      rfl

theorem run_received (h : c.phase.link? = some link) (texts : List String) :
    c.run (texts.map (.received link)) =
      ({ c with inbox := c.inbox.run o.frameLimit (texts.map .receive) }, []) := by
  induction texts generalizing c with
  | nil => rfl
  | cons raw texts ih =>
    -- A text leaves the phase as it is, so the link is held for the rest.
    have hrest := ih (c := { c with inbox := (c.inbox.receive o.frameLimit raw).1 }) h
    rw [List.map_cons, run_cons, step, received_of_eq h]
    dsimp only
    rw [hrest]
    rfl

/-- The connection after its link came up and brought these texts. -/
def served (c : Connection o) (link : Nat) (texts : List String) : Connection o :=
  { c with
    phase := .live link
    backoff := c.backoff.reset
    inbox := c.inbox.run o.frameLimit (texts.map .receive) }

theorem run_opened_received (h : c.phase = .connecting link) (texts : List String) :
    c.run (.opened link :: texts.map (.received link)) = (c.served link texts, []) := by
  rw [run_cons, step, opened_of_eq h]
  dsimp only
  rw [run_received rfl]
  rfl

theorem run_lost (h : c.phase.link? = some link) :
    ∃ delay, c.run [.lost link] =
      ({ c with
          phase := .reconnecting (c.timers + 1) delay
          backoff := c.backoff.next o.schedule o.words
          timers := c.timers + 1 }, c.phase.release ++ [.schedule (c.timers + 1) delay]) := by
  refine ⟨(c.backoff.next o.schedule o.words).last, ?_⟩
  rw [run_cons, step, lost_of_eq h, run_nil, List.append_nil]

end Connection

/-- The frame that a text is read as, if it is. -/
def Frame.ofText? (frameLimit : Nat) (raw : String) : Option Frame :=
  (decode frameLimit raw).toOption

theorem Inbox.channels_receive {limits : Limits} (frameLimit : Nat) (b : Inbox limits)
    (raw : String) :
    (b.receive frameLimit raw).1.channels =
      (Frame.ofText? frameLimit raw).toList.foldl Channels.ingest b.channels := by
  rw [Frame.ofText?]
  cases hread : Frame.decode frameLimit raw with
  | ok f =>
    rw [receive_of_ok hread]
    rfl
  | error cause =>
    rw [receive_of_error hread]
    rfl

theorem Inbox.channels_run_receive {limits : Limits} (frameLimit : Nat) (b : Inbox limits)
    (texts : List String) :
    (b.run frameLimit (texts.map .receive)).channels =
      (texts.filterMap (Frame.ofText? frameLimit)).foldl Channels.ingest b.channels := by
  induction texts generalizing b with
  | nil => rfl
  | cons raw texts ih =>
    rw [List.map_cons, run_cons, ih, step, channels_receive]
    cases hread : Frame.ofText? frameLimit raw with
    | none => rw [List.filterMap_cons_none hread]; rfl
    | some f => rw [List.filterMap_cons_some hread]; rfl

namespace Client

variable {o : LinkOptions}

theorem run_connection (c : Client o) (es : List LinkEvent) :
    c.connection.run es = ((c.run es).1.connection, (c.run es).2) :=
  Machine.run_map connection (fun _ _ => rfl) c es

theorem published_step_of_isReport (c : Client o) {e : LinkEvent} (he : e.isReport = true) :
    (c.step e).1.published = (c.step e).1.connection.phase.state := by
  cases e with
  | opened n => rfl
  | received n raw => rfl
  | lost n => rfl
  | due n => rfl
  | _ => cases he

/-- A queue that brings what the task of a link reports, in order. All else in it is about other
links, and about timers that were scheduled before. -/
structure Brings (c : Client o) (link : Nat) (reports : List Report) (queue : List LinkEvent) :
    Prop where
  areReports : ∀ e ∈ queue, e.isReport = true
  timers : ∀ e ∈ queue, ∀ n, e.timer? = some n → n ≤ c.connection.timers
  inOrder : queue.filter (·.link? = some link) = reports.map (Report.event link)

/-- What working off a queue means to a client: these texts, and none other, are received one after
the other, and after each event the state is published. -/
structure TakesIn (c : Client o) (queue : List LinkEvent) (texts : List String) : Prop where
  channels : (c.run queue).1.channels =
    (texts.filterMap (Frame.ofText? o.frameLimit)).foldl Channels.ingest c.channels
  tally : (c.run queue).1.connection.inbox.tally =
    ⟨c.connection.inbox.tally.routed + texts.countP (Frame.reads o.frameLimit),
      c.connection.inbox.tally.dropped + texts.countP (! Frame.reads o.frameLimit ·)⟩
  published : ∀ before e after, queue = before ++ e :: after →
    (c.run (before ++ [e])).1.published = (c.run (before ++ [e])).1.connection.phase.state

variable {c : Client o} {link : Nat} {reports : List Report} {queue : List LinkEvent}

/-- Working off the queue means to the connection what the reports on its link alone mean. -/
theorem Brings.run_eq (h : c.Brings link reports queue)
    (hlink : c.connection.phase = .connecting link) :
    ((c.run queue).1.connection, (c.run queue).2) =
      c.connection.run (reports.map (Report.event link)) := by
  have hattends : c.connection.Attends link c.connection.timers := .held (by rw [hlink]; rfl) rfl
  rw [← run_connection, hattends.run_eq h.areReports h.timers, h.inOrder]

theorem Brings.takesIn (h : c.Brings link reports queue) {texts : List String}
    (hinbox : (c.run queue).1.connection.inbox =
      c.connection.inbox.run o.frameLimit (texts.map .receive)) : c.TakesIn queue texts := by
  have htexts : (texts.map InboxEvent.receive).filterMap InboxEvent.text? = texts := by
    rw [List.filterMap_map]
    exact List.filterMap_some
  refine ⟨?_, ?_, fun before e after hqueue => ?_⟩
  · rw [channels, hinbox, Inbox.channels_run_receive]
    rfl
  · rw [hinbox, Inbox.tally_run, htexts]
  · rw [run, Machine.run_append]
    exact published_step_of_isReport _ (h.areReports e (by simp [hqueue]))

/-- After the queue the link is closed and the next attempt is scheduled. -/
def Retries (c : Client o) (link : Nat) (queue : List LinkEvent) : Prop :=
  ∃ delay, (c.run queue).1.connection.phase = .reconnecting (c.connection.timers + 1) delay ∧
    (c.run queue).2 = [.closeLink link, .schedule (c.connection.timers + 1) delay]

theorem Brings.lost {texts : List String} {reason : String}
    (h : c.Brings link (.opened :: (texts.map .received ++ [.lost reason])) queue)
    (hlink : c.connection.phase = .connecting link) :
    c.TakesIn queue texts ∧ c.Retries link queue := by
  have hheld : (c.connection.served link texts).phase.link? = some link := rfl
  obtain ⟨delay, hlost⟩ := Connection.run_lost hheld
  have hevents : (Report.opened :: (texts.map .received ++ [.lost reason])).map
      (Report.event link) = (.opened link :: texts.map (.received link)) ++ [.lost link] := by
    simp [Report.event, Function.comp_def]
  have hrun := h.run_eq hlink
  rw [hevents, Connection.run_append, Connection.run_opened_received hlink, hlost] at hrun
  obtain ⟨hconnection, hcalls⟩ := Prod.mk.inj hrun
  exact ⟨h.takesIn (by rw [hconnection]; rfl), delay, by rw [hconnection]; rfl, hcalls⟩

theorem Brings.live {texts : List String}
    (h : c.Brings link (.opened :: texts.map .received) queue)
    (hlink : c.connection.phase = .connecting link) :
    c.TakesIn queue texts ∧ (c.run queue).1.connection.phase = .live link ∧
      (c.run queue).2 = [] := by
  have hevents : (Report.opened :: texts.map .received).map (Report.event link) =
      .opened link :: texts.map (.received link) := by
    simp [Report.event, Function.comp_def]
  have hrun := h.run_eq hlink
  rw [hevents, Connection.run_opened_received hlink] at hrun
  obtain ⟨hconnection, hcalls⟩ := Prod.mk.inj hrun
  exact ⟨h.takesIn (by rw [hconnection]; rfl), by rw [hconnection]; rfl, hcalls⟩

theorem Brings.refused {reason : String} (h : c.Brings link [.lost reason] queue)
    (hlink : c.connection.phase = .connecting link) :
    c.TakesIn queue [] ∧ c.Retries link queue := by
  have hheld : c.connection.phase.link? = some link := by
    rw [hlink]
    rfl
  obtain ⟨delay, hlost⟩ := Connection.run_lost hheld
  rw [hlink] at hlost
  obtain ⟨hconnection, hcalls⟩ := Prod.mk.inj ((h.run_eq hlink).trans hlost)
  exact ⟨h.takesIn (by rw [hconnection]; rfl), delay, by rw [hconnection], hcalls⟩

/-- From the peer to the channels no text is lost, doubled or moved. A link that comes up is
reported as such, then its texts until it ends, then that it is lost; the client that works off any
queue which brings these reports takes in these texts and no others, and tries again once the link
is lost. A link that does not come up is reported lost and nothing else. A task that is told to
close its link reports no more than it had before, and messages that are no texts and end nothing
leave no trace. -/
theorem deliveries_reach_channels (feed : Url) (token : BearerToken) (c : Client o) (link : Nat)
    (hlink : c.connection.phase = .connecting link) :
    (∀ handshake, Handshake.request feed token = .ok handshake → ∀ ds : List Delivery,
      let reports := LinkTask.reports feed token (.accepted :: ds.map Delivery.input)
      match Delivery.loss? ds with
      | some reason =>
        reports = .opened :: ((Delivery.texts ds).map .received ++ [.lost reason]) ∧
        ∀ queue, c.Brings link reports queue →
          c.TakesIn queue (Delivery.texts ds) ∧ c.Retries link queue
      | none =>
        reports = .opened :: (Delivery.texts ds).map .received ∧
        ∀ queue, c.Brings link reports queue →
          c.TakesIn queue (Delivery.texts ds) ∧
          (c.run queue).1.connection.phase = .live link ∧ (c.run queue).2 = []) ∧
    (∀ inputs, (∃ e, Handshake.request feed token = .error e) ∨
        (∃ cause rest, inputs = .refused cause :: rest) →
      let reports := LinkTask.reports feed token inputs
      (∃ reason, reports = [.lost reason]) ∧
      ∀ queue, c.Brings link reports queue → c.TakesIn queue [] ∧ c.Retries link queue) ∧
    (∀ before after rest,
      let reports := LinkTask.reports feed token
      reports (before ++ .closeWanted :: after) = reports before ∧
      reports before <+: reports (before ++ rest)) ∧
    ∀ m : Message, m.isSilent = true → ∀ before after,
      let reports := LinkTask.reports feed token
      reports (before ++ .arrived m :: after) = reports (before ++ after) := by
  refine ⟨fun handshake hrequest ds => ?_, fun inputs hfail => ?_,
    fun before after rest => ⟨LinkTask.reports_closeWanted before after, ?_⟩,
    fun m hm => LinkTask.reports_silent hm⟩
  · have hreports := LinkTask.reports_accepted hrequest ds
    cases hloss : Delivery.loss? ds with
    | some reason =>
      rw [hloss] at hreports
      exact ⟨hreports, fun queue hqueue => Brings.lost (hreports ▸ hqueue) hlink⟩
    | none =>
      rw [hloss, Option.toList_none, List.map_nil, List.append_nil] at hreports
      exact ⟨hreports, fun queue hqueue => Brings.live (hreports ▸ hqueue) hlink⟩
  · have hreports : ∃ reason, LinkTask.reports feed token inputs = [.lost reason] := by
      cases hrequest : Handshake.request feed token with
      | error e => exact ⟨_, LinkTask.reports_of_error hrequest inputs⟩
      | ok handshake =>
        obtain ⟨e, he⟩ | ⟨cause, rest, rfl⟩ := hfail
        · cases hrequest.symm.trans he
        · exact ⟨_, LinkTask.reports_refused hrequest cause rest⟩
    refine ⟨hreports, fun queue hqueue => ?_⟩
    obtain ⟨reason, hreason⟩ := hreports
    exact Brings.refused (hreason ▸ hqueue) hlink
  · exact ⟨_, (LinkTask.reports_append feed token before rest).symm⟩

/-- A first link is lost and a second one brings a sample, a ping, something that is no frame, and
fails before it brings another sample. The first link is heard of again in between. -/
theorem one_sample_before_failure :
    let o : LinkOptions := ⟨BackoffPolicy.standard.schedule, fun _ => 0, {}, Frame.defaultLimit⟩
    let s : Session := ⟨⟨"token", by decide, by decide⟩, default⟩
    let feed : Url :=
      ⟨"ws", some ⟨"", "", .name "localhost", none⟩, .rooted ["ws"], none, none, false⟩
    let sample := "\x7b\"type\":\"metrics_update\",\"data\":\x7b\"cpu\":10\x7d\x7d"
    let ds : List Delivery :=
      [.message (.text sample), .message .ping, .message (.text "none"), .failure "reset",
        .message (.text sample)]
    let queue : List LinkEvent :=
      [.lost 1, .opened 2, .received 2 sample, .due 1, .received 1 sample, .received 2 "none",
        .lost 2]
    let c := ((start : Client o).run [.connect s, .lost 1, .due 1]).1
    c.connection.phase = .connecting 2 ∧
      c.Brings 2 (LinkTask.reports feed s.token (.accepted :: ds.map Delivery.input)) queue ∧
      c.TakesIn queue [sample, "none"] ∧ (c.run queue).1.channels.metrics.size = 1 ∧
      c.Retries 2 queue := by
  intro o s feed sample ds queue c
  have hphase : c.connection.phase = .connecting 2 := by decide +kernel
  have hrequest : Handshake.request feed s.token =
      .ok ⟨"ws://localhost/ws", "localhost", "Bearer token"⟩ := by decide +kernel
  obtain ⟨hreports, htakes⟩ :=
    (deliveries_reach_channels feed s.token c 2 hphase).1 _ hrequest ds
  have hbrings : c.Brings 2 (LinkTask.reports feed s.token (.accepted :: ds.map Delivery.input))
      queue := by
    refine ⟨by decide, ?_, ?_⟩
    · have htimers : c.connection.timers = 1 := by decide +kernel
      rw [htimers]
      simp [queue, LinkEvent.timer?]
    · rw [hreports]
      decide
  obtain ⟨htexts, hretries⟩ := htakes queue hbrings
  exact ⟨hphase, hbrings, htexts, by decide +kernel, hretries⟩

end Client

end OpsConsole
