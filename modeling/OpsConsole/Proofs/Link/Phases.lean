import Mathlib.Data.List.Induction
import OpsConsole.Proofs.Link.Activity

/-!
# The phases of a connection

A connection accepts a connect that it does not ignore, a disconnect, and a report of the link or
timer that is current. What it accepts moves it: a connect to connecting, the opening of its link
from connecting to live, the loss of its link from either to reconnecting, its timer from
reconnecting to connecting, a disconnect to closed. Nothing else moves it, and no move leads to
idle, so a connection is idle up to its first connect or disconnect and never again.

The moves keep a connection orderly: it holds a token exactly while it is active, so there always
is one when a link is to be opened; it has received nothing while it is not active; and it has
tried nothing yet unless it is connecting or reconnecting.
-/

namespace OpsConsole

/-- The moves from one state to another. -/
inductive LinkState.Move : LinkEvent → LinkState → LinkState → Prop
  | connect (s : Session) (before : LinkState) : Move (.connect s) before .connecting
  | opened (link : Nat) : Move (.opened link) .connecting .live
  | lostUnderWay (link : Nat) : Move (.lost link) .connecting .reconnecting
  | lostLive (link : Nat) : Move (.lost link) .live .reconnecting
  | due (timer : Nat) : Move (.due timer) .reconnecting .connecting
  | disconnect (before : LinkState) : Move .disconnect before .closed

theorem LinkState.Move.ne_idle {e : LinkEvent} {a b : LinkState} (h : Move e a b) : b ≠ .idle := by
  cases h <;> exact nofun

theorem LinkState.Move.not_isPassive {e : LinkEvent} {b : LinkState} (h : Move e .idle b) :
    e.isPassive = false := by
  cases h <;> rfl

/-- What the attempts since the last reset may be in a phase. -/
def Phase.Attempted : Phase → Nat → Prop
  | idle, n | live _, n | closed, n => n = 0
  | reconnecting .., n => 1 ≤ n
  | connecting _, _ => True

namespace Connection

variable {o : LinkOptions} {c : Connection o} {e : LinkEvent}

/-- Whether the connection acts on an event about its phase. -/
def accepts (c : Connection o) : LinkEvent → Bool
  | .connect s => ¬ (c.phase.isActive ∧ c.token = some s.token)
  | .disconnect => true
  | .opened link => c.phase = .connecting link
  | .lost link => c.phase.link? = some link
  | .due timer => c.awaits timer
  | .received .. | .subscribe _ | .unsubscribe _ | .acknowledge _ => false

/-- The connection as it opens its next link, where an event leads to that. -/
def opening? (c : Connection o) : LinkEvent → Option (Connection o)
  | .connect s =>
    if c.accepts (.connect s) then
      let vacated := (c.vacate s.token).1
      some { vacated with token := some s.token, backoff := vacated.backoff.reset }
    else none
  | .due timer => if c.awaits timer then some { c with phase := .idle } else none
  | _ => none

theorem step_connect_of_not_accepts {s : Session} (h : c.accepts (.connect s) = false) :
    c.step (.connect s) = (c, []) :=
  connect_of_same (not_not.1 (of_decide_eq_false h))

theorem connect_of_accepts {s : Session} (h : c.accepts (.connect s) = true) :
    c.connect s = (c.joined s, c.phase.release ++ [.openLink (c.links + 1) s.token]) :=
  connect_of_not_same (of_decide_eq_true h)

theorem step_of_not_accepts (h : c.accepts e = false) :
    (c.step e).1.phase = c.phase ∧ (c.step e).1.backoff = c.backoff := by
  cases e with
  | connect s =>
    rw [step_connect_of_not_accepts h]
    exact ⟨rfl, rfl⟩
  | disconnect => cases h
  | opened link =>
    rw [step, opened_of_ne (of_decide_eq_false h)]
    exact ⟨rfl, rfl⟩
  | received link raw =>
    by_cases hlink : c.phase.link? = some link
    · rw [step, received_of_eq hlink]
      exact ⟨rfl, rfl⟩
    · rw [step, received_of_ne hlink]
      exact ⟨rfl, rfl⟩
  | lost link =>
    rw [step, lost_of_ne (of_decide_eq_false h)]
    exact ⟨rfl, rfl⟩
  | due timer =>
    rw [step, due_of_not_awaits h]
    exact ⟨rfl, rfl⟩
  | subscribe process => exact ⟨rfl, rfl⟩
  | unsubscribe process => exact ⟨rfl, rfl⟩
  | acknowledge id => exact ⟨rfl, rfl⟩

theorem due_of_settled (h : c.Settled) {timer : Nat} (hdue : c.awaits timer = true) :
    ∃ token, c.token = some token ∧
      c.due timer = ({ c with phase := .connecting (c.links + 1), links := c.links + 1 },
        [.openLink (c.links + 1) token]) := by
  obtain ⟨delay, hphase⟩ := phase_of_awaits hdue
  rw [Settled, hphase] at h
  obtain ⟨token, htoken⟩ := Option.isSome_iff_exists.1 h.symm
  refine ⟨token, htoken, ?_⟩
  rw [due_of_awaits hdue]
  exact openLink_of_token (c := { c with phase := .idle }) htoken

theorem move_of_accepts (h : c.Settled) (he : c.accepts e = true) :
    LinkState.Move e c.phase.state (c.step e).1.phase.state := by
  cases e with
  | connect s =>
    rw [step, connect_of_accepts he]
    exact .connect s _
  | disconnect => exact .disconnect _
  | opened link =>
    have hphase : c.phase = .connecting link := of_decide_eq_true he
    rw [step, opened_of_eq hphase, hphase]
    exact .opened link
  | lost link =>
    have hlink : c.phase.link? = some link := of_decide_eq_true he
    rw [step, lost_of_eq hlink]
    cases hphase : c.phase with
    | connecting n => exact .lostUnderWay link
    | live n => exact .lostLive link
    | _ =>
      rw [hphase] at hlink
      cases hlink
  | due timer =>
    obtain ⟨delay, hphase⟩ := phase_of_awaits he
    obtain ⟨token, -, hdue⟩ := due_of_settled h he
    rw [step, hdue, hphase]
    exact .due timer
  | _ => cases he

/-- Where a link is to be opened, there is a token to open it with. -/
theorem token_of_opening? (h : c.Settled) {d : Connection o} (hd : c.opening? e = some d) :
    ∃ token released, d.token = some token ∧
      c.step e = (d.openLink.1, released ++ d.openLink.2) := by
  cases e with
  | connect s =>
    rw [opening?] at hd
    split at hd
    · next haccepts =>
      cases hd
      refine ⟨s.token, (c.vacate s.token).2, rfl, ?_⟩
      rw [step, connect, if_neg (of_decide_eq_true haccepts)]
    · cases hd
  | due timer =>
    rw [opening?] at hd
    split at hd
    · next hdue =>
      cases hd
      obtain ⟨token, htoken, -⟩ := due_of_settled h hdue
      refine ⟨token, [], htoken, ?_⟩
      rw [step, due_of_awaits hdue]
      rfl
    · cases hd
  | _ => cases hd

theorem openLink_not_mem_release (p : Phase) (link : Nat) (token : BearerToken) :
    .openLink link token ∉ p.release := by
  cases p <;> simp [Phase.release]

theorem openLink_not_mem_step (h : c.opening? e = none) (link : Nat) (token : BearerToken) :
    .openLink link token ∉ (c.step e).2 := by
  cases e with
  | connect s =>
    cases haccepts : c.accepts (.connect s) with
    | false =>
      rw [step_connect_of_not_accepts haccepts]
      exact List.not_mem_nil
    | true =>
      rw [opening?, if_pos haccepts] at h
      cases h
  | disconnect => exact openLink_not_mem_release _ _ _
  | lost n =>
    by_cases hlink : c.phase.link? = some n
    · rw [step, lost_of_eq hlink]
      simp [openLink_not_mem_release]
    · rw [step, lost_of_ne hlink]
      exact List.not_mem_nil
  | due timer =>
    cases hdue : c.awaits timer with
    | false =>
      rw [step, due_of_not_awaits hdue]
      exact List.not_mem_nil
    | true =>
      rw [opening?, if_pos hdue] at h
      cases h
  | _ => exact List.not_mem_nil

/-! ### What the moves keep -/

structure Orderly (c : Connection o) : Prop where
  settled : c.Settled
  empty : c.phase.isActive = false → c.inbox.channels = ∅
  attempted : c.phase.Attempted c.backoff.attempt

theorem orderly_start : (start : Connection o).Orderly := ⟨rfl, fun _ => rfl, rfl⟩

theorem isActive_step_of_passive (h : c.Settled) (he : e.isPassive = true) :
    (c.step e).1.phase.isActive = c.phase.isActive := by
  rw [settled_step h e, token_step_of_passive he, h]

theorem Orderly.empty_step (h : c.Orderly) (e : LinkEvent)
    (hidle : (c.step e).1.phase.isActive = false) : (c.step e).1.inbox.channels = ∅ := by
  cases he : e.isPassive with
  | true =>
    rw [isActive_step_of_passive h.settled he] at hidle
    exact channels_step_of_passive he hidle (h.empty hidle)
  | false =>
    cases e with
    | connect s =>
      cases haccepts : c.accepts (.connect s) with
      | false =>
        rw [step_connect_of_not_accepts haccepts] at hidle ⊢
        exact h.empty hidle
      | true =>
        rw [step, connect_of_accepts haccepts] at hidle
        cases hidle
    | disconnect => rfl
    | _ => cases he

theorem Orderly.attempted_step (h : c.Orderly) (e : LinkEvent) :
    (c.step e).1.phase.Attempted (c.step e).1.backoff.attempt := by
  cases haccepts : c.accepts e with
  | false =>
    obtain ⟨hphase, hbackoff⟩ := step_of_not_accepts haccepts
    rw [hphase, hbackoff]
    exact h.attempted
  | true =>
    cases e with
    | connect s =>
      rw [step, connect_of_accepts haccepts]
      trivial
    | disconnect => rfl
    | opened link =>
      rw [step, opened_of_eq (of_decide_eq_true haccepts)]
      rfl
    | lost link =>
      have hcount : 1 ≤ min (c.backoff.attempt + 1) Backoff.mostAttempts :=
        Nat.le_min.2 ⟨Nat.le_add_left _ _, by decide⟩
      rw [step, lost_of_eq (of_decide_eq_true haccepts)]
      exact hcount
    | due timer =>
      obtain ⟨token, -, hdue⟩ := due_of_settled h.settled haccepts
      rw [step, hdue]
      trivial
    | _ => cases haccepts

theorem Orderly.step (h : c.Orderly) (e : LinkEvent) : (c.step e).1.Orderly :=
  ⟨settled_step h.settled e, h.empty_step e, h.attempted_step e⟩

theorem Orderly.run (h : c.Orderly) (es : List LinkEvent) : (c.run es).1.Orderly :=
  Machine.run_keeps (fun _ e hc => hc.step e) h es

/-- Only events that neither connect nor disconnect leave a connection idle, and only an idle
one. -/
theorem idle_step_iff (h : c.Settled) (e : LinkEvent) :
    (c.step e).1.phase.state = .idle ↔ c.phase.state = .idle ∧ e.isPassive = true := by
  cases haccepts : c.accepts e with
  | true =>
    have hmove := move_of_accepts h haccepts
    refine iff_of_false hmove.ne_idle ?_
    rintro ⟨hidle, hpassive⟩
    rw [hidle] at hmove
    cases hpassive.symm.trans hmove.not_isPassive
  | false =>
    rw [(step_of_not_accepts haccepts).1]
    refine ⟨fun hidle => ⟨hidle, ?_⟩, And.left⟩
    cases e with
    | connect s =>
      have hactive : c.phase.isActive = true := (not_not.1 (of_decide_eq_false haccepts)).1
      rw [Phase.not_isActive_iff_state.2 (.inl hidle)] at hactive
      cases hactive
    | disconnect => cases haccepts
    | _ => rfl

theorem idle_run_iff (es : List LinkEvent) :
    ((start : Connection o).run es).1.phase.state = .idle ↔ ∀ e ∈ es, e.isPassive = true := by
  induction es using List.reverseRecOn with
  | nil => simp [start, Phase.state]
  | append_singleton es e ih =>
    have hsettled := ((orderly_start (o := o)).run es).settled
    rw [run_append, run_cons, run_nil, idle_step_iff hsettled, ih]
    simp [or_imp, forall_and]

theorem disconnect_disconnect (c : Connection o) :
    c.disconnect.1.disconnect = (c.disconnect.1, []) := rfl

/-- Wherever a run has led: a token is held exactly while the connection is active, it is idle
exactly as long as nothing connected or disconnected, nothing is received while it is idle or
closed, and attempts are counted as the state says. What is accepted makes its move, what is not
leaves the phase, and a connect that is not accepted changes nothing at all. A second disconnect
changes nothing and calls nothing. When a link comes to be opened there is a token for it. -/
theorem phases_orderly (es : List LinkEvent) :
    let c := ((start : Connection o).run es).1
    let state := c.phase.state
    (c.token.isSome ↔ state = .connecting ∨ state = .live ∨ state = .reconnecting) ∧
    (state = .idle ↔ ∀ e ∈ es, e.isPassive = true) ∧
    (state = .idle ∨ state = .closed → c.inbox.channels = ∅) ∧
    (state = .idle ∨ state = .live ∨ state = .closed → c.backoff.attempt = 0) ∧
    (state = .reconnecting → 1 ≤ c.backoff.attempt) ∧
    (∀ e, c.accepts e = true → LinkState.Move e state (c.step e).1.phase.state) ∧
    (∀ e, c.accepts e = false → (c.step e).1.phase = c.phase) ∧
    (∀ s, c.accepts (.connect s) = false → c.step (.connect s) = (c, [])) ∧
    c.disconnect.1.disconnect = (c.disconnect.1, []) ∧
    (∀ e d, c.opening? e = some d → ∃ token released, d.token = some token ∧
      c.step e = (d.openLink.1, released ++ d.openLink.2)) ∧
    (∀ e, c.opening? e = none → ∀ link token, .openLink link token ∉ (c.step e).2) := by
  intro c state
  have h : c.Orderly := orderly_start.run es
  have hattempted := h.attempted
  refine ⟨?_, idle_run_iff es, ?_, ?_, ?_, fun e => move_of_accepts h.settled,
    fun e he => (step_of_not_accepts he).1, fun s => step_connect_of_not_accepts,
    disconnect_disconnect c, fun e d => token_of_opening? h.settled,
    fun e he => openLink_not_mem_step he⟩
  · rw [← h.settled]
    exact Phase.isActive_iff_state
  · exact fun hstate => h.empty (Phase.not_isActive_iff_state.2 hstate)
  · intro hstate
    revert hattempted hstate
    simp only [state]
    cases c.phase <;> simp [Phase.state, Phase.Attempted]
  · intro hstate
    revert hattempted hstate
    simp only [state]
    cases c.phase <;> simp [Phase.state, Phase.Attempted]

/-- A connection that waits to reconnect takes its timer and ignores the lost link and another
connect with its token. Disconnected it is closed, with nothing received and nothing tried. -/
theorem reconnecting_then_closed :
    let o : LinkOptions := ⟨BackoffPolicy.standard.schedule, fun _ => 0, {}, Frame.defaultLimit⟩
    let s : Session := ⟨⟨"token", by decide, by decide⟩, default⟩
    let c := ((start : Connection o).run [.connect s, .opened 1, .lost 1]).1
    let d := ((start : Connection o).run [.connect s, .opened 1, .lost 1, .disconnect]).1
    c.phase.state = .reconnecting ∧ 1 ≤ c.backoff.attempt ∧
      LinkState.Move (.due 1) c.phase.state (c.step (.due 1)).1.phase.state ∧
      (c.step (.opened 1)).1.phase = c.phase ∧ c.step (.connect s) = (c, []) ∧
      (∃ token released, c.token = some token ∧ c.step (.due 1) =
        ((openLink { c with phase := .idle }).1,
          released ++ (openLink { c with phase := .idle }).2)) ∧
      .openLink 2 s.token ∉ (c.step .disconnect).2 ∧
      d.phase.state = .closed ∧ d.inbox.channels = ∅ ∧ d.backoff.attempt = 0 := by
  intro o s c d
  have hstate : c.phase.state = .reconnecting := rfl
  have hclosed : d.phase.state = .closed := rfl
  obtain ⟨-, -, -, -, hattempts, hmove, hstay, hsame, -, htoken, hnone⟩ :=
    phases_orderly (o := o) [.connect s, .opened 1, .lost 1]
  obtain ⟨-, -, hempty, hzero, -⟩ :=
    phases_orderly (o := o) [.connect s, .opened 1, .lost 1, .disconnect]
  exact ⟨hstate, hattempts hstate, hmove (.due 1) rfl, hstay (.opened 1) rfl, hsame s rfl,
    htoken (.due 1) { c with phase := .idle } rfl, hnone .disconnect rfl 2 s.token, hclosed,
    hempty (.inr hclosed), hzero (.inr (.inr hclosed))⟩

end Connection

end OpsConsole
