import OpsConsole.Link.Client
import OpsConsole.Proofs.Feed.Acknowledgement
import OpsConsole.Proofs.Link.Staleness

/-!
# The revision of what was received

The client counts the events that may change what was received: an accepted frame, an alert that is
acknowledged, lines that are dropped, a disconnect. So whoever sees the same revision twice has
missed nothing, with one exception. A connect with another token than the one held clears the
channels without being counted, so what was received with the old token goes unnoticed.
-/

namespace OpsConsole

theorem Inbox.channels_receive_of_none {limits : Limits} {b : Inbox limits} {frameLimit : Nat}
    {raw : String} (h : (b.receive frameLimit raw).2 = none) :
    (b.receive frameLimit raw).1.channels = b.channels := by
  cases hread : Frame.decode frameLimit raw with
  | ok f =>
    rw [Inbox.receive_of_ok hread] at h
    cases h
  | error cause =>
    rw [Inbox.receive_of_error hread]
    rfl

namespace Connection

variable {o : LinkOptions} {c : Connection o} {e : LinkEvent}

theorem channels_step_of_tearsDown (h : c.tearsDown e = true) :
    (c.step e).1.inbox.channels = ∅ := by
  cases e with
  | connect s =>
    have hother : ¬ (c.phase.isActive ∧ c.token = some s.token) := by
      rintro ⟨-, hsame⟩
      simp [tearsDown, hsame] at h
    rw [step, connect_of_not_same hother, joined, if_pos h]
    rfl
  | disconnect => rfl
  | _ => cases h

theorem channels_step_of_not_counted (h : Client.isCounted c e = false)
    (hkept : c.tearsDown e = false) : (c.step e).1.inbox.channels = c.inbox.channels := by
  cases e with
  | connect s =>
    by_cases hsame : c.phase.isActive ∧ c.token = some s.token
    · rw [step, connect_of_same hsame]
    · rw [step, connect_of_not_same hsame, joined, hkept]
      rfl
  | disconnect => cases h
  | opened link =>
    by_cases hlink : c.phase = .connecting link
    · rw [step, opened_of_eq hlink]
    · rw [step, opened_of_ne hlink]
  | received link raw =>
    have hnone : (c.received link raw).2 = none := by simpa [Client.isCounted] using h
    by_cases hlink : c.phase.link? = some link
    · rw [received_of_eq hlink] at hnone
      rw [step, received_of_eq hlink]
      exact Inbox.channels_receive_of_none hnone
    · rw [step, received_of_ne hlink]
  | lost link =>
    by_cases hlink : c.phase.link? = some link
    · rw [step, lost_of_eq hlink]
    · rw [step, lost_of_ne hlink]
  | due timer =>
    cases hdue : c.awaits timer with
    | false => rw [step, due_of_not_awaits hdue]
    | true =>
      rw [step, due_of_awaits hdue, openLink]
      cases c.token <;> rfl
  | subscribe process => rfl
  | unsubscribe process => cases h
  | acknowledge id =>
    have hzero : c.inbox.channels.acknowledged id = 0 :=
      Nat.eq_zero_of_not_pos (of_decide_eq_false h)
    exact Channels.acknowledge_of_acknowledged_eq_zero hzero

end Connection

namespace Client

variable {o : LinkOptions}

theorem revision_step (c : Client o) (e : LinkEvent) :
    (c.step e).1.revision = c.revision + (isCounted c.connection e).toNat := by
  change (if isCounted c.connection e then c.revision + 1 else c.revision) = _
  cases isCounted c.connection e <;> rfl

theorem isConnect_of_not_counted {c : Connection o} {e : LinkEvent}
    (h : isCounted c e = false) (hdown : c.tearsDown e = true) : e.isConnect = true := by
  cases e with
  | connect s => rfl
  | disconnect => cases h
  | _ => cases hdown

theorem not_counted_of_isConnect {c : Connection o} {e : LinkEvent} (h : e.isConnect = true) :
    isCounted c e = false := by
  cases e with
  | connect s => rfl
  | _ => cases h

/-- Wherever a run has led, the revision never falls, and it grows with every change of what was
received but one: where something was received, a connect with another token than the one held
clears it and leaves the revision as it is. -/
theorem unnoticed_change_iff (es : List LinkEvent) (e : LinkEvent) :
    let c := ((start : Client o).run es).1
    let d := (c.step e).1
    c.revision ≤ d.revision ∧
    (d.channels ≠ c.channels ∧ ¬ c.revision < d.revision ↔
      e.isConnect = true ∧ c.connection.tearsDown e = true ∧ c.channels ≠ ∅ ∧ d.channels = ∅) := by
  intro c d
  have hrevision : d.revision = c.revision + (isCounted c.connection e).toNat := revision_step c e
  refine ⟨?_, ?_, ?_⟩
  · rw [hrevision]
    exact Nat.le_add_right _ _
  · rintro ⟨hchanged, hsame⟩
    have hcounted : isCounted c.connection e = false := by
      rw [hrevision] at hsame
      simpa using hsame
    have hdown : c.connection.tearsDown e = true := by
      cases hdown : c.connection.tearsDown e with
      | true => rfl
      | false => exact (hchanged (Connection.channels_step_of_not_counted hcounted hdown)).elim
    have hempty : d.channels = ∅ := Connection.channels_step_of_tearsDown hdown
    exact ⟨isConnect_of_not_counted hcounted hdown, hdown,
      fun hc => hchanged (hempty.trans hc.symm), hempty⟩
  · rintro ⟨hconnect, -, hsome, hempty⟩
    refine ⟨fun hsame => hsome (hsame.symm.trans hempty), ?_⟩
    rw [hrevision, not_counted_of_isConnect hconnect]
    exact Nat.lt_irrefl _

/-- A sample was received; another session connects, the sample is gone, and the revision is what
it was. -/
theorem replaced_session_unnoticed :
    let o : LinkOptions := ⟨BackoffPolicy.standard.schedule, fun _ => 0, {}, Frame.defaultLimit⟩
    let s : Session := ⟨⟨"first", by decide, by decide⟩, default⟩
    let next : Session := ⟨⟨"second", by decide, by decide⟩, default⟩
    let text := "\x7b\"type\":\"metrics_update\",\"data\":\x7b\"cpu\":10\x7d\x7d"
    let c := ((start : Client o).run [.connect s, .opened 1, .received 1 text]).1
    let d := (c.step (.connect next)).1
    c.channels.metrics.size = 1 ∧ d.channels.metrics.size = 0 ∧ c.revision = 1 ∧ d.revision = 1 ∧
      ¬ (d.channels ≠ c.channels → c.revision < d.revision) := by
  intro o s next text c d
  have hreceived : c.channels.metrics.size = 1 := by decide +kernel
  have hcleared : d.channels.metrics.size = 0 := by decide +kernel
  have hbefore : c.revision = 1 := by decide +kernel
  have hafter : d.revision = 1 := by decide +kernel
  refine ⟨hreceived, hcleared, hbefore, hafter, fun hclaim => ?_⟩
  have hchanged : d.channels ≠ c.channels := by
    intro hsame
    rw [hsame, hreceived] at hcleared
    cases hcleared
  have hlt := hclaim hchanged
  rw [hbefore, hafter] at hlt
  exact Nat.lt_irrefl _ hlt

end Client

end OpsConsole
