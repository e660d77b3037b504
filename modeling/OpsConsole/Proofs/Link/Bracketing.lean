import OpsConsole.Proofs.Link.Ledger
import OpsConsole.Proofs.Link.Transition

/-!
# The links and timers of a run

The trace of a run holds its calls in order, and before the calls of an event the running out of
the timer, if the event says that the awaited one ran out. Every connection has a ledger, which
takes the marks of each event and then is the ledger of the connection after it. So the trace of a
run, completed by what the connection does when it is dropped, is bracketed; and at any point a
link is up exactly while the connection is connecting or live, and a timer is set exactly while it
is reconnecting.
-/

namespace OpsConsole

namespace Phase

def holding : Phase → Holding
  | connecting n | live n => .link n
  | reconnecting timer _ => .timer timer
  | idle | closed => .nothing

theorem link?_holding (p : Phase) : p.holding.link? = p.link? := by
  cases p <;> rfl

theorem timer?_holding (p : Phase) : p.holding.timer? = p.timer?.map (·.1) := by
  cases p <;> rfl

end Phase

namespace Connection

variable {o : LinkOptions}

def ledger (c : Connection o) : Ledger := ⟨c.links, c.timers, c.phase.holding⟩

/-- The awaited timer that an event says has run out. -/
def ranOut (c : Connection o) : LinkEvent → List Mark
  | .due timer => if c.awaits timer then [.ranOut timer] else []
  | _ => []

def marks (c : Connection o) (e : LinkEvent) : List Mark :=
  c.ranOut e ++ (c.step e).2.map .call

def trace (c : Connection o) : List LinkEvent → List Mark
  | [] => []
  | e :: rest => c.marks e ++ (c.step e).1.trace rest

/-- The whole trace of a connection that is dropped after some events. -/
def fullTrace (c : Connection o) (es : List LinkEvent) : List Mark :=
  c.trace es ++ (c.run es).1.drop.2.map .call

theorem calls_trace (c : Connection o) (es : List LinkEvent) :
    (c.trace es).filterMap Mark.call? = (c.run es).2 := by
  induction es generalizing c with
  | nil => rfl
  | cons e rest ih =>
    have hr : (c.ranOut e).filterMap Mark.call? = [] := by
      cases e with
      | due timer => by_cases h : c.awaits timer <;> simp [ranOut, h, Mark.call?]
      | _ => rfl
    have hc : ((c.step e).2.map Mark.call).filterMap Mark.call? = (c.step e).2 := by
      rw [List.filterMap_map]
      exact List.filterMap_some
    rw [trace, marks, List.filterMap_append, List.filterMap_append, hr, hc, ih, run_cons]
    rfl

theorem enterAll_release (links timers : Nat) (p : Phase) :
    (Ledger.mk links timers p.holding).enterAll (p.release.map .call) =
      some ⟨links, timers, .nothing⟩ := by
  cases p <;> simp [Phase.holding, Phase.release, Ledger.enter]

theorem enterAll_openLink (c : Connection o) (h : c.phase.holding = .nothing) :
    c.ledger.enterAll (c.openLink.2.map .call) = some c.openLink.1.ledger := by
  rw [ledger, h, openLink]
  cases ht : c.token with
  | none => rfl
  | some token => simp [ledger, Phase.holding, Ledger.enter]

theorem enterAll_marks (c : Connection o) (e : LinkEvent) :
    c.ledger.enterAll (c.marks e) = some (c.step e).1.ledger := by
  cases e with
  | connect s =>
    by_cases h : c.phase.isActive ∧ c.token = some s.token
    · simp [marks, ranOut, step, connect_of_same h]
    · simp only [marks, ranOut, step, connect_of_not_same h, List.nil_append, List.map_append]
      rw [Ledger.enterAll_append, ledger, enterAll_release]
      simp [Ledger.enter, joined, ledger, Phase.holding]
  | disconnect => exact enterAll_release c.links c.timers c.phase
  | opened n =>
    by_cases h : c.phase = .connecting n
    · simp [marks, ranOut, step, opened_of_eq h, ledger, h, Phase.holding]
    · simp [marks, ranOut, step, opened_of_ne h]
  | received n raw =>
    by_cases h : c.phase.link? = some n
    · simp [marks, ranOut, step, received_of_eq h, ledger]
    · simp [marks, ranOut, step, received_of_ne h]
  | lost n =>
    by_cases h : c.phase.link? = some n
    · simp only [marks, ranOut, step, lost_of_eq h, List.nil_append, List.map_append]
      rw [Ledger.enterAll_append, ledger, enterAll_release]
      simp [Ledger.enter, ledger, Phase.holding]
    · simp [marks, ranOut, step, lost_of_ne h]
  | due n =>
    by_cases h : c.awaits n
    · obtain ⟨delay, hp⟩ := phase_of_awaits h
      have hopen := enterAll_openLink { c with phase := .idle } rfl
      simp only [marks, ranOut, step, due_of_awaits h, if_pos h]
      rw [List.singleton_append, Ledger.enterAll_cons]
      simpa [ledger, hp, Phase.holding, Ledger.enter] using hopen
    · simp [marks, ranOut, step, due_of_not_awaits (Bool.eq_false_iff.2 h), h]
  | subscribe process => rfl
  | unsubscribe process => rfl
  | acknowledge id => rfl

theorem enterAll_trace (c : Connection o) (es : List LinkEvent) :
    c.ledger.enterAll (c.trace es) = some (c.run es).1.ledger := by
  induction es generalizing c with
  | nil => rfl
  | cons e rest ih =>
    rw [trace, Ledger.enterAll_append, enterAll_marks, run_cons]
    exact ih _

theorem describes_trace (es : List LinkEvent) :
    ((start : Connection o).run es).1.ledger.Describes ((start : Connection o).trace es) :=
  Ledger.describes_start.enterAll _ (enterAll_trace start es)

theorem describes_fullTrace (es : List LinkEvent) :
    ((start : Connection o).run es).1.drop.1.ledger.Describes
      ((start : Connection o).fullTrace es) :=
  (describes_trace es).enterAll _ (enterAll_release _ _ _)

/-- The calls of any run are bracketed once the connection is dropped. On the way a link is up
exactly while the connection is connecting or live, and a timer is set exactly while it is
reconnecting; in the end neither is. -/
theorem fullTrace_bracketed (es : List LinkEvent) :
    let c := ((start : Connection o).run es).1
    let marks := (start : Connection o).trace es
    let whole := (start : Connection o).fullTrace es
    marks.filterMap Mark.call? = ((start : Connection o).run es).2 ∧
    ((∃ n, LinkUp marks n) ↔ c.phase.state = .connecting ∨ c.phase.state = .live) ∧
    ((∃ n, TimerSet marks n) ↔ c.phase.state = .reconnecting) ∧
    Bracketed whole ∧ (∀ n, ¬ LinkUp whole n) ∧ (∀ n, ¬ TimerSet whole n) := by
  intro c marks whole
  have hd : c.ledger.Describes marks := describes_trace es
  have hw : c.drop.1.ledger.Describes whole := describes_fullTrace es
  refine ⟨calls_trace start es, ?_, ?_, hw.bracketed rfl, ?_, ?_⟩
  · simp only [hd.linkUp_iff, ledger, Phase.link?_holding]
    cases c.phase <;> simp [Phase.link?, Phase.state]
  · simp only [hd.timerSet_iff, ledger, Phase.timer?_holding]
    cases c.phase <;> simp [Phase.timer?, Phase.state]
  · intro n hn
    cases (hw.linkUp_iff n).1 hn
  · intro n hn
    cases (hw.timerSet_iff n).1 hn

end Connection

end OpsConsole
