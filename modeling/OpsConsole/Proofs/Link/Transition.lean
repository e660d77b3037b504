import OpsConsole.Link.Connection

/-!
# What an event does to a connection

One equation for each way an event can go. An event that is ignored returns the connection itself
and makes no call. A connect that is not ignored opens the next link; it is a teardown when another
token is held, and so is every disconnect. A teardown clears what was received and what was
subscribed, and nothing else does.
-/

namespace OpsConsole

namespace Connection

variable {o : LinkOptions}

@[simp] theorem run_nil (c : Connection o) : c.run [] = (c, []) := rfl

@[simp] theorem run_cons (c : Connection o) (e : LinkEvent) (rest : List LinkEvent) :
    c.run (e :: rest) =
      (((c.step e).1.run rest).1, (c.step e).2 ++ ((c.step e).1.run rest).2) := rfl

theorem run_append (c : Connection o) (a b : List LinkEvent) :
    c.run (a ++ b) = (((c.run a).1.run b).1, (c.run a).2 ++ ((c.run a).1.run b).2) :=
  Machine.run_append step c a b

/-- The events that end what was received so far: a disconnect, and a connect while another token
is held. -/
def tearsDown (c : Connection o) : LinkEvent → Bool
  | .disconnect => true
  | .connect s => c.token.isSome && c.token ≠ some s.token
  | _ => false

/-- What a connect that is not ignored leaves behind. -/
def joined (c : Connection o) (s : Session) : Connection o where
  phase := .connecting (c.links + 1)
  token := some s.token
  backoff := c.backoff.reset
  links := c.links + 1
  timers := c.timers
  inbox := if c.tearsDown (.connect s) then c.inbox.clear else c.inbox
  subscriptions := if c.tearsDown (.connect s) then ∅ else c.subscriptions

theorem connect_of_same {c : Connection o} {s : Session}
    (h : c.phase.isActive ∧ c.token = some s.token) : c.connect s = (c, []) :=
  if_pos h

theorem connect_of_not_same {c : Connection o} {s : Session}
    (h : ¬ (c.phase.isActive ∧ c.token = some s.token)) :
    c.connect s = (c.joined s, c.phase.release ++ [.openLink (c.links + 1) s.token]) := by
  rw [connect, if_neg h]
  by_cases ht : c.token.isSome ∧ c.token ≠ some s.token
  · have hd : c.tearsDown (.connect s) = true := by simpa [tearsDown] using ht
    simp only [vacate, if_pos ht, joined, hd, if_true]
    rfl
  · have hd : c.tearsDown (.connect s) = false := by simpa [tearsDown] using ht
    simp only [vacate, if_neg ht, joined, hd]
    rfl

theorem opened_of_ne {c : Connection o} {n : Nat} (h : c.phase ≠ .connecting n) :
    c.opened n = c :=
  if_neg h

theorem opened_of_eq {c : Connection o} {n : Nat} (h : c.phase = .connecting n) :
    c.opened n = { c with phase := .live n, backoff := c.backoff.reset } :=
  if_pos h

theorem received_of_ne {c : Connection o} {n : Nat} (h : c.phase.link? ≠ some n) (raw : String) :
    c.received n raw = (c, none) :=
  if_neg h

theorem received_of_eq {c : Connection o} {n : Nat} (h : c.phase.link? = some n) (raw : String) :
    c.received n raw =
      ({ c with inbox := (c.inbox.receive o.frameLimit raw).1 },
        (c.inbox.receive o.frameLimit raw).2) :=
  if_pos h

theorem lost_of_ne {c : Connection o} {n : Nat} (h : c.phase.link? ≠ some n) :
    c.lost n = (c, []) :=
  if_neg h

theorem lost_of_eq {c : Connection o} {n : Nat} (h : c.phase.link? = some n) :
    c.lost n =
      ({ c with
          phase := .reconnecting (c.timers + 1) (c.backoff.next o.schedule o.words).last
          backoff := c.backoff.next o.schedule o.words
          timers := c.timers + 1 },
        c.phase.release ++ [.schedule (c.timers + 1) (c.backoff.next o.schedule o.words).last]) :=
  if_pos h

/-- Whether the connection waits for a timer. -/
def awaits (c : Connection o) (n : Nat) : Bool := c.phase.timer?.map (·.1) = some n

theorem due_of_not_awaits {c : Connection o} {n : Nat} (h : c.awaits n = false) :
    c.due n = (c, []) :=
  if_neg (by simpa [awaits] using h)

theorem due_of_awaits {c : Connection o} {n : Nat} (h : c.awaits n = true) :
    c.due n = openLink { c with phase := .idle } :=
  if_pos (by simpa [awaits] using h)

theorem phase_of_awaits {c : Connection o} {n : Nat} (h : c.awaits n = true) :
    ∃ delay, c.phase = .reconnecting n delay := by
  cases hp : c.phase with
  | reconnecting timer delay =>
    have : timer = n := by simpa [awaits, hp, Phase.timer?] using h
    exact ⟨delay, by rw [this]⟩
  | _ => simp [awaits, hp, Phase.timer?] at h

end Connection

end OpsConsole
