import OpsConsole.Proofs.Link.Transition

/-!
# Activity

A connection is active exactly while it holds a token. It takes up a token when it connects and
gives it up when it disconnects; no other event takes up or gives up one. While nothing is held
nothing is received, so channels that were empty stay so.
-/

namespace OpsConsole

/-- Whether an event neither connects nor disconnects. -/
def LinkEvent.isPassive : LinkEvent → Bool
  | connect _ | disconnect => false
  | _ => true

namespace Phase

theorem isActive_iff_state {p : Phase} : p.isActive = true ↔
    p.state = .connecting ∨ p.state = .live ∨ p.state = .reconnecting := by
  cases p <;> simp [isActive, state]

theorem not_isActive_iff_state {p : Phase} :
    p.isActive = false ↔ p.state = .idle ∨ p.state = .closed := by
  cases p <;> simp [isActive, state]

theorem isActive_of_link? {p : Phase} {n : Nat} (h : p.link? = some n) : p.isActive = true := by
  cases p with
  | connecting m => rfl
  | live m => rfl
  | _ => cases h

end Phase

namespace Connection

variable {o : LinkOptions} {c : Connection o}

theorem tearsDown_of_no_token (h : c.token = none) (s : Session) :
    c.tearsDown (.connect s) = false := by
  rw [tearsDown, h]
  rfl

theorem connect_of_no_token (h : c.token = none) (s : Session) :
    c.connect s = (c.joined s, c.phase.release ++ [.openLink (c.links + 1) s.token]) := by
  refine connect_of_not_same ?_
  rw [h]
  exact fun hsame => nomatch hsame.2

theorem inbox_joined_of_no_token (h : c.token = none) (s : Session) :
    (c.joined s).inbox = c.inbox := by
  rw [joined, tearsDown_of_no_token h]
  rfl

theorem subscriptions_joined_of_no_token (h : c.token = none) (s : Session) :
    (c.joined s).subscriptions = c.subscriptions := by
  rw [joined, tearsDown_of_no_token h]
  rfl

theorem openLink_of_token {token : BearerToken} (h : c.token = some token) :
    c.openLink =
      ({ c with phase := .connecting (c.links + 1), links := c.links + 1 },
        [.openLink (c.links + 1) token]) := by
  rw [openLink, h]

theorem token_step_of_passive {e : LinkEvent} (he : e.isPassive = true) :
    (c.step e).1.token = c.token := by
  cases e with
  | connect s => cases he
  | disconnect => cases he
  | opened n =>
    by_cases hp : c.phase = .connecting n
    · rw [step, opened_of_eq hp]
    · rw [step, opened_of_ne hp]
  | received n raw =>
    by_cases hp : c.phase.link? = some n
    · rw [step, received_of_eq hp]
    · rw [step, received_of_ne hp]
  | lost n =>
    by_cases hp : c.phase.link? = some n
    · rw [step, lost_of_eq hp]
    · rw [step, lost_of_ne hp]
  | due n =>
    cases hp : c.awaits n with
    | false => rw [step, due_of_not_awaits hp]
    | true =>
      rw [step, due_of_awaits hp, openLink]
      cases ht : c.token <;> rfl
  | subscribe process => rfl
  | unsubscribe process => rfl
  | acknowledge id => rfl

/-- Active exactly while a token is held. -/
def Settled (c : Connection o) : Prop := c.phase.isActive = c.token.isSome

theorem settled_step (h : c.Settled) (e : LinkEvent) : (c.step e).1.Settled := by
  cases e with
  | connect s =>
    by_cases hsame : c.phase.isActive ∧ c.token = some s.token
    · rwa [step, connect_of_same hsame]
    · rw [step, connect_of_not_same hsame]
      rfl
  | disconnect => rfl
  | opened n =>
    by_cases hp : c.phase = .connecting n
    · rw [Settled, hp] at h
      rw [step, opened_of_eq hp]
      exact h
    · rwa [step, opened_of_ne hp]
  | received n raw =>
    by_cases hp : c.phase.link? = some n
    · rwa [step, received_of_eq hp]
    · rwa [step, received_of_ne hp]
  | lost n =>
    by_cases hp : c.phase.link? = some n
    · rw [Settled, Phase.isActive_of_link? hp] at h
      rw [step, lost_of_eq hp]
      exact h
    · rwa [step, lost_of_ne hp]
  | due n =>
    cases hp : c.awaits n with
    | false => rwa [step, due_of_not_awaits hp]
    | true =>
      obtain ⟨delay, hphase⟩ := phase_of_awaits hp
      rw [Settled, hphase] at h
      obtain ⟨token, htoken⟩ := Option.isSome_iff_exists.1 h.symm
      have hopen := openLink_of_token (c := { c with phase := .idle }) htoken
      rw [step, due_of_awaits hp, hopen]
      exact h
  | subscribe process => exact h
  | unsubscribe process => exact h
  | acknowledge id => exact h

theorem channels_step_of_passive {e : LinkEvent} (he : e.isPassive = true)
    (hidle : c.phase.isActive = false) (hempty : c.inbox.channels = ∅) :
    (c.step e).1.inbox.channels = ∅ := by
  have hlink (n : Nat) : c.phase.link? ≠ some n := fun hp => by
    rw [Phase.isActive_of_link? hp] at hidle
    cases hidle
  cases e with
  | connect s => cases he
  | disconnect => cases he
  | opened n =>
    have hp : c.phase ≠ .connecting n := fun hp => hlink n (by rw [hp]; rfl)
    rwa [step, opened_of_ne hp]
  | received n raw => rwa [step, received_of_ne (hlink n)]
  | lost n => rwa [step, lost_of_ne (hlink n)]
  | due n =>
    cases hp : c.awaits n with
    | false => rwa [step, due_of_not_awaits hp]
    | true =>
      obtain ⟨delay, hphase⟩ := phase_of_awaits hp
      rw [hphase] at hidle
      cases hidle
  | subscribe process => exact hempty
  | unsubscribe process =>
    change c.inbox.channels.dropLines process = ∅
    rw [hempty]
    rfl
  | acknowledge id =>
    change c.inbox.channels.acknowledge id = ∅
    rw [hempty]
    rfl

end Connection

end OpsConsole
