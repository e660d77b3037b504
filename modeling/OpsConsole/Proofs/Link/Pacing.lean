import Mathlib.Data.List.Induction
import OpsConsole.Proofs.Link.Delays
import OpsConsole.Proofs.Link.Staleness

/-!
# The pace of reconnection

An event restarts the pace when it connects anew, disconnects, or reports that the awaited link is
up; it counts as a loss when it reports the end of the link that is held. A loss takes the next
delay and schedules a timer with it, and no other event schedules one. A restart resets the delays,
and an event that is neither leaves them as they are.

So at any point of a run the attempts are the losses since the last restart, and the delays
scheduled since then are those of a backoff that was reset and asked for nothing else. The timer
that is awaited is always the one that was scheduled last.
-/

namespace OpsConsole

/-- The timer that a call schedules, and its delay. -/
def Call.scheduled? : Call → Option (Nat × Nat)
  | schedule timer delay => some (timer, delay)
  | _ => none

theorem Phase.scheduled_release (p : Phase) : p.release.filterMap Call.scheduled? = [] := by
  cases p <;> rfl

namespace Connection

variable {o : LinkOptions} {c : Connection o} {e : LinkEvent} {before after : List LinkEvent}

/-- A connect that the connection does not ignore, a disconnect, or the opening of the link that is
under way. -/
def restarts (c : Connection o) : LinkEvent → Bool
  | .connect s => ¬ (c.phase.isActive ∧ c.token = some s.token)
  | .disconnect => true
  | .opened link => c.phase = .connecting link
  | _ => false

/-- The end of the link that is held. -/
def loses (c : Connection o) : LinkEvent → Bool
  | .lost link => c.phase.link? = some link
  | _ => false

theorem not_loses_of_restarts (h : c.restarts e = true) : c.loses e = false := by
  cases e with
  | lost link => cases h
  | _ => rfl

/-- The timers and delays that the events of a run schedule. -/
def scheduled (c : Connection o) (es : List LinkEvent) : List (Nat × Nat) :=
  (c.run es).2.filterMap Call.scheduled?

theorem scheduled_append (c : Connection o) (a b : List LinkEvent) :
    c.scheduled (a ++ b) = c.scheduled a ++ (c.run a).1.scheduled b := by
  rw [scheduled, run_append, List.filterMap_append]
  rfl

/-- An event that is no loss resets the delays exactly when it is a restart, schedules nothing, and
has a timer awaited only if it was awaited before. -/
theorem step_of_not_loses (h : c.loses e = false) :
    (c.step e).1.backoff = (if c.restarts e then c.backoff.reset else c.backoff) ∧
      (c.step e).2.filterMap Call.scheduled? = [] ∧
      ∀ timer delay, (c.step e).1.phase = .reconnecting timer delay →
        c.phase = .reconnecting timer delay := by
  cases e with
  | connect s =>
    by_cases hsame : c.phase.isActive ∧ c.token = some s.token
    · have hr : c.restarts (.connect s) = false := decide_eq_false (not_not_intro hsame)
      rw [step, connect_of_same hsame, hr]
      exact ⟨rfl, rfl, fun _ _ hp => hp⟩
    · have hr : c.restarts (.connect s) = true := decide_eq_true hsame
      have hcalls : (c.phase.release ++ [Call.openLink (c.links + 1) s.token]).filterMap
          Call.scheduled? = [] := by
        rw [List.filterMap_append, Phase.scheduled_release]
        rfl
      rw [step, connect_of_not_same hsame, hr]
      exact ⟨rfl, hcalls, fun _ _ hp => by cases hp⟩
  | disconnect => exact ⟨rfl, Phase.scheduled_release _, fun _ _ hp => by cases hp⟩
  | opened link =>
    by_cases hlink : c.phase = .connecting link
    · rw [step, opened_of_eq hlink, restarts, decide_eq_true hlink]
      exact ⟨rfl, rfl, fun _ _ hp => by cases hp⟩
    · rw [step, opened_of_ne hlink, restarts, decide_eq_false hlink]
      exact ⟨rfl, rfl, fun _ _ hp => hp⟩
  | received link raw =>
    by_cases hlink : c.phase.link? = some link
    · rw [step, received_of_eq hlink]
      exact ⟨rfl, rfl, fun _ _ hp => hp⟩
    · rw [step, received_of_ne hlink]
      exact ⟨rfl, rfl, fun _ _ hp => hp⟩
  | lost link =>
    have hlink : c.phase.link? ≠ some link := of_decide_eq_false h
    rw [step, lost_of_ne hlink]
    exact ⟨rfl, rfl, fun _ _ hp => hp⟩
  | due timer =>
    cases hdue : c.awaits timer with
    | false =>
      rw [step, due_of_not_awaits hdue]
      exact ⟨rfl, rfl, fun _ _ hp => hp⟩
    | true =>
      rw [step, due_of_awaits hdue, openLink]
      cases c.token <;> exact ⟨rfl, rfl, fun _ _ hp => by cases hp⟩
  | subscribe process => exact ⟨rfl, rfl, fun _ _ hp => hp⟩
  | unsubscribe process => exact ⟨rfl, rfl, fun _ _ hp => hp⟩
  | acknowledge id => exact ⟨rfl, rfl, fun _ _ hp => hp⟩

theorem step_of_loses (h : c.loses e = true) :
    let next := c.backoff.next o.schedule o.words
    (c.step e).1.backoff = next ∧
      (c.step e).1.phase = .reconnecting (c.timers + 1) next.last ∧
      (c.step e).2.filterMap Call.scheduled? = [(c.timers + 1, next.last)] := by
  intro next
  cases e with
  | lost link =>
    have hp : c.phase.link? = some link := of_decide_eq_true h
    rw [step, lost_of_eq hp]
    refine ⟨rfl, rfl, ?_⟩
    rw [List.filterMap_append, Phase.scheduled_release]
    rfl
  | _ => cases h

theorem scheduled_step (c : Connection o) (e : LinkEvent) :
    (c.step e).2.filterMap Call.scheduled? =
      if c.loses e then [(c.timers + 1, (c.step e).1.backoff.last)] else [] := by
  cases h : c.loses e with
  | true =>
    obtain ⟨hbackoff, -, hcalls⟩ := step_of_loses h
    rw [hcalls, hbackoff]
    rfl
  | false => exact (step_of_not_loses h).2.1

/-! ### Events that leave the pace alone -/

/-- A stale event, a text, a connect that the connection ignores, or a call about subscriptions or
alerts. -/
def Quiet (c : Connection o) : LinkEvent → Prop
  | .connect s => c.phase.isActive ∧ c.token = some s.token
  | .received .. | .subscribe _ | .unsubscribe _ | .acknowledge _ => True
  | e => c.Stale e

theorem not_loses_of_quiet (h : c.Quiet e) : c.loses e = false := by
  cases e with
  | lost link => exact decide_eq_false h
  | _ => rfl

theorem not_restarts_of_quiet (h : c.Quiet e) : c.restarts e = false := by
  cases e with
  | connect s => exact decide_eq_false (not_not_intro h)
  | disconnect => exact h.elim
  | opened link =>
    refine decide_eq_false fun hp => ?_
    simp [Quiet, Stale, hp, Phase.link?] at h
  | _ => rfl

theorem backoff_step_of_quiet (h : c.Quiet e) : (c.step e).1.backoff = c.backoff := by
  rw [(step_of_not_loses (not_loses_of_quiet h)).1, not_restarts_of_quiet h]
  rfl

/-! ### Since the last restart -/

/-- How many events of a run meet a condition on the connection that they come to. -/
def occurrences (met : Connection o → LinkEvent → Bool) (c : Connection o) : List LinkEvent → Nat
  | [] => 0
  | e :: rest => (met c e).toNat + occurrences met (c.step e).1 rest

theorem occurrences_append (met : Connection o → LinkEvent → Bool) (c : Connection o)
    (a b : List LinkEvent) :
    occurrences met c (a ++ b) = occurrences met c a + occurrences met (c.run a).1 b := by
  induction a generalizing c with
  | nil => simp [occurrences]
  | cons e a ih => simp only [List.cons_append, occurrences, run_cons, ih, Nat.add_assoc]

/-- The events of a run after its last restart, or all of them if there is none. -/
structure SinceRestart (o : LinkOptions) (before after : List LinkEvent) : Prop where
  begun : before = [] ∨
    ∃ earlier e, before = earlier ++ [e] ∧ ((start : Connection o).run earlier).1.restarts e = true
  steady : occurrences restarts ((start : Connection o).run before).1 after = 0

theorem exists_sinceRestart (o : LinkOptions) (es : List LinkEvent) :
    ∃ before after, es = before ++ after ∧ SinceRestart o before after := by
  induction es using List.reverseRecOn with
  | nil => exact ⟨[], [], rfl, .inl rfl, rfl⟩
  | append_singleton es e ih =>
    -- A restart leaves no events after itself; any other event joins those after the last one.
    cases hr : ((start : Connection o).run es).1.restarts e with
    | true => exact ⟨es ++ [e], [], by simp, .inr ⟨es, e, rfl, hr⟩, rfl⟩
    | false =>
      obtain ⟨before, after, rfl, hsince⟩ := ih
      rw [run_append] at hr
      refine ⟨before, after ++ [e], List.append_assoc .., hsince.begun, ?_⟩
      rw [occurrences_append, hsince.steady]
      simp [occurrences, hr]

theorem paced_begun (h : SinceRestart o before after) :
    Backoff.Paced o.schedule ((start : Connection o).run before).1.backoff [] := by
  rcases h.begun with rfl | ⟨earlier, e, rfl, hr⟩
  · exact Backoff.paced_nil rfl rfl
  · have hstep := (step_of_not_loses (not_loses_of_restarts hr)).1
    rw [hr, if_pos rfl] at hstep
    rw [run_append, run_cons, run_nil, hstep]
    exact Backoff.paced_reset _

theorem paced_run {delays : List Nat} (h : Backoff.Paced o.schedule c.backoff delays)
    (hsteady : occurrences restarts c after = 0) :
    Backoff.Paced o.schedule (c.run after).1.backoff
        (delays ++ (c.scheduled after).map Prod.snd) ∧
      (c.scheduled after).length = occurrences loses c after := by
  induction after generalizing c delays with
  | nil => exact ⟨by simpa [scheduled] using h, rfl⟩
  | cons e rest ih =>
    obtain ⟨hnow, hlater⟩ := Nat.add_eq_zero_iff.1 hsteady
    have hr : c.restarts e = false := by simpa using hnow
    have hsplit : c.scheduled (e :: rest) =
        (c.step e).2.filterMap Call.scheduled? ++ (c.step e).1.scheduled rest := by
      rw [scheduled, run_cons, List.filterMap_append]
      rfl
    rw [run_cons, hsplit, occurrences]
    cases hl : c.loses e with
    | true =>
      obtain ⟨hbackoff, -, hcalls⟩ := step_of_loses hl
      have hnext := h.next o.words
      rw [← hbackoff] at hnext
      obtain ⟨hpaced, hlength⟩ := ih hnext hlater
      rw [hcalls, ← hbackoff, List.map_append, List.length_append, hlength, ← List.append_assoc]
      exact ⟨hpaced, rfl⟩
    | false =>
      obtain ⟨hbackoff, hcalls, -⟩ := step_of_not_loses hl
      rw [hr, if_neg Bool.false_ne_true] at hbackoff
      rw [← hbackoff] at h
      obtain ⟨hpaced, hlength⟩ := ih h hlater
      rw [hcalls, List.nil_append, hlength]
      exact ⟨hpaced, (Nat.zero_add _).symm⟩

/-! ### The timer that is awaited -/

theorem scheduled_last {timer delay : Nat} (es : List LinkEvent)
    (h : ((start : Connection o).run es).1.phase = .reconnecting timer delay) :
    ((start : Connection o).scheduled es).getLast? = some (timer, delay) := by
  induction es using List.reverseRecOn generalizing timer delay with
  | nil => cases h
  | append_singleton es e ih =>
    have hone : ((start : Connection o).run es).1.scheduled [e] =
        (((start : Connection o).run es).1.step e).2.filterMap Call.scheduled? := by
      rw [scheduled, run_cons, run_nil, List.append_nil]
    rw [run_append, run_cons, run_nil] at h
    rw [scheduled_append, hone]
    cases hl : ((start : Connection o).run es).1.loses e with
    | true =>
      obtain ⟨-, hphase, hcalls⟩ := step_of_loses hl
      rw [hphase] at h
      cases h
      rw [hcalls, List.getLast?_concat]
    | false =>
      obtain ⟨-, hcalls, hphase⟩ := step_of_not_loses hl
      rw [hcalls, List.append_nil]
      exact ih (hphase timer delay h)

/-- A timer is awaited exactly while the one that was scheduled last has neither been cancelled nor
run out. -/
theorem timer?_eq_some_iff (es : List LinkEvent) (timer delay : Nat) :
    ((start : Connection o).run es).1.phase.timer? = some (timer, delay) ↔
      TimerSet ((start : Connection o).trace es) timer ∧
        ((start : Connection o).scheduled es).getLast? = some (timer, delay) := by
  rw [(describes_trace es).timerSet_iff, ledger, Phase.timer?_holding]
  cases hp : ((start : Connection o).run es).1.phase with
  | reconnecting awaited due =>
    rw [scheduled_last es hp]
    simp [Phase.timer?]
  | _ => simp [Phase.timer?]

/-- The pace of reconnection, for any policy and any source of random words, wherever a run has led.
The attempts are the losses since the last restart, as far as they are counted. Each of these losses
scheduled one delay: it is at least the base, doubled for every loss before up to the twentieth,
unless that is beyond the cap; it does not exceed the cap, which is not below the base; and it does
not fall below the delay before. Only a loss schedules a timer, quiet events leave the attempts and
the next delay alone, and what is awaited is the timer that was scheduled last, while it is set. -/
theorem reconnection_paced (p : BackoffPolicy) (words : WordSource) (limits : Limits)
    (frameLimit : Nat) (es : List LinkEvent) :
    let o : LinkOptions := ⟨p.schedule, words, limits, frameLimit⟩
    let c := ((start : Connection o).run es).1
    let cap := max p.cap p.base
    (∃ before after, es = before ++ after ∧ SinceRestart o before after) ∧
    (∀ before after, es = before ++ after → SinceRestart o before after →
      let losses := occurrences loses ((start : Connection o).run before).1 after
      let delays := (((start : Connection o).run before).1.scheduled after).map Prod.snd
      c.backoff.attempt = min losses 0xFFFFFFFF ∧ delays.length = losses ∧
      (∀ k d, delays[k]? = some d → min cap (p.base * Nat.pow 2 (min k 20)) ≤ d ∧ d ≤ cap) ∧
      delays.Pairwise (· ≤ ·)) ∧
    (∀ e, (c.step e).2.filterMap Call.scheduled? =
      if c.loses e then [(c.timers + 1, (c.step e).1.backoff.last)] else []) ∧
    (∀ e, c.Quiet e → (c.step e).1.backoff = c.backoff) ∧
    (∀ timer delay, c.phase.timer? = some (timer, delay) ↔
      TimerSet ((start : Connection o).trace es) timer ∧
        ((start : Connection o).scheduled es).getLast? = some (timer, delay)) := by
  intro o c cap
  refine ⟨exists_sinceRestart o es, ?_, scheduled_step c, fun e => backoff_step_of_quiet,
    timer?_eq_some_iff es⟩
  rintro before after hes hsince losses delays
  obtain ⟨hpaced, hlength⟩ := paced_run (paced_begun hsince) hsince.steady
  have hc : c = (((start : Connection o).run before).1.run after).1 := by
    change ((start : Connection o).run es).1 = _
    rw [hes, run_append]
  rw [← hc, List.nil_append] at hpaced
  have hlosses : delays.length = losses := (List.length_map ..).trans hlength
  refine ⟨?_, hlosses, ?_, hpaced.sorted⟩
  · rw [← hlosses]
    exact hpaced.attempt
  · intro k d hk
    refine ⟨?_, Nat.le_trans (hpaced.last d (List.mem_of_getElem? hk)) hpaced.last_le_cap⟩
    rw [Nat.min_comm]
    exact hpaced.exponential_le k d hk

/-- Two links in a row cannot be opened after a connect. The second delay would be twice the first
but for the cap, and its timer is awaited. -/
theorem second_delay_capped :
    let policy : BackoffPolicy := ⟨1000, 1500, .zero⟩
    let o : LinkOptions := ⟨policy.schedule, fun _ => 0, {}, Frame.defaultLimit⟩
    let s : Session := ⟨⟨"token", by decide, by decide⟩, default⟩
    let after : List LinkEvent := [.lost 1, .due 1, .lost 2]
    let c := ((start : Connection o).run (.connect s :: after)).1
    SinceRestart o [.connect s] after ∧ c.backoff.attempt = 2 ∧
      ((start : Connection o).run [.connect s]).1.scheduled after = [(1, 1000), (2, 1500)] ∧
      c.Quiet (.lost 1) ∧ (c.step (.lost 1)).1.backoff = c.backoff ∧
      c.phase.timer? = some (2, 1500) := by
  intro policy o s after c
  have hsince : SinceRestart o [.connect s] after :=
    ⟨.inr ⟨[], .connect s, rfl, by decide +kernel⟩, by decide +kernel⟩
  have hscheduled : ((start : Connection o).run [.connect s]).1.scheduled after =
      [(1, 1000), (2, 1500)] := by decide +kernel
  obtain ⟨-, hpace, -, hquiet, hawaited⟩ :=
    reconnection_paced policy (fun _ => 0) {} Frame.defaultLimit (.connect s :: after)
  obtain ⟨hattempt, hlength, -, -⟩ := hpace [.connect s] after rfl hsince
  have hstale : c.Quiet (.lost 1) := by
    change c.phase.link? ≠ some 1
    decide +kernel
  have hset : TimerSet ((start : Connection o).trace (.connect s :: after)) 2 :=
    ⟨by decide +kernel, by decide +kernel⟩
  have hlast : ((start : Connection o).scheduled (.connect s :: after)).getLast? =
      some (2, 1500) := by decide +kernel
  refine ⟨hsince, ?_, hscheduled, hstale, hquiet _ hstale, (hawaited 2 1500).2 ⟨hset, hlast⟩⟩
  refine hattempt.trans ?_
  rw [← hlength, hscheduled]
  rfl

end Connection

end OpsConsole
