import OpsConsole.Proofs.Link.Bracketing

/-!
# Events that come too late

An event of a link or timer is stale when the link is not the one held, when the link it reports
open is open already, or when the timer is not the one awaited. A stale event is inert: it changes
nothing, makes no call, and a text that it brings counts neither as routed nor as dropped. A link
or timer that was held once and is not held now is spent, and what is spent stays so in every
continuation; its events are inert for ever. After a disconnect nothing is held until the next
connect, so until then every event of a link or timer is inert.
-/

namespace OpsConsole

namespace LinkEvent

/-- The link that an event is about. -/
def link? : LinkEvent → Option Nat
  | opened n | received n _ | lost n => some n
  | _ => none

/-- The timer that an event is about. -/
def timer? : LinkEvent → Option Nat
  | due n => some n
  | _ => none

/-- Whether an event reports on a link or timer. -/
def isReport (e : LinkEvent) : Bool := e.link?.isSome || e.timer?.isSome

def isConnect : LinkEvent → Bool
  | connect _ => true
  | _ => false

end LinkEvent

namespace Connection

variable {o : LinkOptions}

/-- An event about a link or timer that is not the current one, or about the opening of a link
that is open already. -/
def Stale (c : Connection o) : LinkEvent → Prop
  | .opened n => c.phase.link? ≠ some n ∨ c.phase = .live n
  | .received n _ | .lost n => c.phase.link? ≠ some n
  | .due n => c.phase.timer?.map (·.1) ≠ some n
  | _ => False

/-- An event that changes nothing and makes no call. A text that it brings goes nowhere. -/
def Inert (c : Connection o) (e : LinkEvent) : Prop :=
  c.step e = (c, []) ∧ ∀ n raw, e = .received n raw → c.received n raw = (c, none)

theorem inert_of_stale {c : Connection o} {e : LinkEvent} (h : c.Stale e) : c.Inert e := by
  cases e with
  | opened n =>
    have hne : c.phase ≠ .connecting n := by
      intro hp
      simp [Stale, hp, Phase.link?] at h
    refine ⟨?_, by simp⟩
    rw [step, opened_of_ne hne]
  | received n raw =>
    have hr := received_of_ne h raw
    refine ⟨by rw [step, hr], ?_⟩
    rintro _ _ ⟨rfl, rfl⟩
    exact hr
  | lost n => exact ⟨lost_of_ne h, by simp⟩
  | due n =>
    refine ⟨due_of_not_awaits ?_, by simp⟩
    simpa [awaits, Stale] using h
  | connect s => exact h.elim
  | disconnect => exact h.elim
  | subscribe process => exact h.elim
  | unsubscribe process => exact h.elim
  | acknowledge id => exact h.elim

theorem stale_of_link {c : Connection o} {e : LinkEvent} {n : Nat} (he : e.link? = some n)
    (h : c.phase.link? ≠ some n) : c.Stale e := by
  cases e with
  | opened m =>
    cases he
    exact Or.inl h
  | received m raw =>
    cases he
    exact h
  | lost m =>
    cases he
    exact h
  | _ => cases he

theorem stale_of_timer {c : Connection o} {e : LinkEvent} {n : Nat} (he : e.timer? = some n)
    (h : c.phase.timer?.map (·.1) ≠ some n) : c.Stale e := by
  cases e with
  | due m =>
    cases he
    exact h
  | _ => cases he

theorem holding_eq_link_iff {p : Phase} {n : Nat} : p.holding = .link n ↔ p.link? = some n := by
  cases p <;> simp [Phase.holding, Phase.link?]

theorem holding_eq_timer_iff {p : Phase} {n : Nat} :
    p.holding = .timer n ↔ p.timer?.map (·.1) = some n := by
  cases p <;> simp [Phase.holding, Phase.timer?]

/-- What was held once in a run and is not held at its end is spent. -/
theorem spent_of_held_before {earlier es : List LinkEvent} (hpre : earlier <+: es) {h : Holding}
    (hsome : h ≠ .nothing)
    (hbefore : ((start : Connection o).run earlier).1.phase.holding = h)
    (hnow : ((start : Connection o).run es).1.phase.holding ≠ h) :
    ((start : Connection o).run es).1.ledger.Spent h := by
  obtain ⟨between, rfl⟩ := hpre
  have hle := (describes_trace (o := o) earlier).holding_le
  have hgrow := Ledger.le_of_enterAll
    (enterAll_trace ((start : Connection o).run earlier).1 between)
  rw [run_append] at hnow ⊢
  cases h with
  | nothing => exact (hsome rfl).elim
  | link n => exact ⟨Nat.le_trans (hle.1 n hbefore) hgrow.1, hnow⟩
  | timer n => exact ⟨Nat.le_trans (hle.2 n hbefore) hgrow.2, hnow⟩

theorem spent_run {c : Connection o} {h : Holding} (hs : c.ledger.Spent h)
    (later : List LinkEvent) : (c.run later).1.ledger.Spent h :=
  hs.enterAll (enterAll_trace c later)

theorem closed_step {c : Connection o} {e : LinkEvent} (hc : c.phase = .closed)
    (he : e.isConnect = false) : (c.step e).1.phase = .closed := by
  cases e with
  | connect s => cases he
  | disconnect => rfl
  | opened n =>
    have hs : c.Stale (.opened n) := Or.inl (by simp [hc, Phase.link?])
    rw [(inert_of_stale hs).1, hc]
  | received n raw =>
    have hs : c.Stale (.received n raw) := by simp [Stale, hc, Phase.link?]
    rw [(inert_of_stale hs).1, hc]
  | lost n =>
    have hs : c.Stale (.lost n) := by simp [Stale, hc, Phase.link?]
    rw [(inert_of_stale hs).1, hc]
  | due n =>
    have hs : c.Stale (.due n) := by simp [Stale, hc, Phase.timer?]
    rw [(inert_of_stale hs).1, hc]
  | subscribe process => exact hc
  | unsubscribe process => exact hc
  | acknowledge id => exact hc

theorem closed_run {c : Connection o} (hc : c.phase = .closed) (later : List LinkEvent)
    (hl : ∀ e ∈ later, e.isConnect = false) : (c.run later).1.phase = .closed := by
  induction later generalizing c with
  | nil => exact hc
  | cons e rest ih =>
    have hstep := closed_step hc (hl e List.mem_cons_self)
    exact ih hstep fun e' he' => hl e' (List.mem_cons_of_mem _ he')

theorem stale_of_closed {c : Connection o} (hc : c.phase = .closed) {e : LinkEvent}
    (he : e.isReport = true) : c.Stale e := by
  cases e <;> simp_all [LinkEvent.isReport, LinkEvent.link?, LinkEvent.timer?, Stale,
    Phase.link?, Phase.timer?]

theorem run_of_closed {c : Connection o} (hc : c.phase = .closed) (reports : List LinkEvent)
    (hr : ∀ e ∈ reports, e.isReport = true) : c.run reports = (c, []) := by
  induction reports with
  | nil => rfl
  | cons e rest ih =>
    have hstep := (inert_of_stale (stale_of_closed hc (hr e List.mem_cons_self))).1
    have hrest := ih fun e' he' => hr e' (List.mem_cons_of_mem _ he')
    rw [run_cons, hstep, hrest]
    rfl

/-- A stale event is inert wherever a run has led. A link or timer that was held earlier in the
run and is not held now has only inert events in every continuation. After a disconnect every
report is inert up to the next connect. -/
theorem stale_inert_for_ever (es : List LinkEvent) :
    let c := ((start : Connection o).run es).1
    (∀ e, c.Stale e → c.Inert e) ∧
    (∀ n earlier, earlier <+: es →
      ((start : Connection o).run earlier).1.phase.link? = some n → c.phase.link? ≠ some n →
      ∀ later e, e.link? = some n → (c.run later).1.Inert e) ∧
    (∀ n earlier, earlier <+: es →
      ((start : Connection o).run earlier).1.phase.timer?.map (·.1) = some n →
      c.phase.timer?.map (·.1) ≠ some n →
      ∀ later e, e.timer? = some n → (c.run later).1.Inert e) ∧
    (∀ later, (∀ e ∈ later, e.isConnect = false) →
      ∀ reports, (∀ e ∈ reports, e.isReport = true) →
        (c.disconnect.1.run later).1.run reports = ((c.disconnect.1.run later).1, [])) := by
  intro c
  refine ⟨fun e => inert_of_stale, ?_, ?_, ?_⟩
  · intro n earlier hpre hbefore hnow later e he
    have hspent : c.ledger.Spent (.link n) :=
      spent_of_held_before hpre (by simp) (holding_eq_link_iff.2 hbefore)
        (fun h => hnow (holding_eq_link_iff.1 h))
    have hlater := (spent_run hspent later).2
    exact inert_of_stale (stale_of_link he fun h => hlater (holding_eq_link_iff.2 h))
  · intro n earlier hpre hbefore hnow later e he
    have hspent : c.ledger.Spent (.timer n) :=
      spent_of_held_before hpre (by simp) (holding_eq_timer_iff.2 hbefore)
        (fun h => hnow (holding_eq_timer_iff.1 h))
    have hlater := (spent_run hspent later).2
    exact inert_of_stale (stale_of_timer he fun h => hlater (holding_eq_timer_iff.2 h))
  · intro later hl reports hr
    exact run_of_closed (closed_run rfl later hl) reports hr

/-- A text that comes over a lost link goes nowhere, even when another link is under way. -/
theorem late_text_inert :
    let o : LinkOptions := ⟨BackoffPolicy.standard.schedule, fun _ => 0, {}, Frame.defaultLimit⟩
    let s : Session := ⟨⟨"token", by decide, by decide⟩, default⟩
    ((start : Connection o).run [.connect s, .lost 1, .due 1]).1.Inert (.received 1 "late") := by
  intro o s
  have hpre : [LinkEvent.connect s] <+: [.connect s, .lost 1] := ⟨[.lost 1], rfl⟩
  exact (stale_inert_for_ever [.connect s, .lost 1]).2.1 1 [.connect s] hpre rfl nofun
    [.due 1] (.received 1 "late") rfl

end Connection

end OpsConsole
