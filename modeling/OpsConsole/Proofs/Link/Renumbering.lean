import OpsConsole.Proofs.Link.Transition

/-!
# Runs that differ in their numbers

Two connections are alike from some point on when they agree in all that can be told without the
numbers given out before that point: a link or timer is held in both with the same number counted
from there, or in neither. Events that agree in the same sense keep connections alike. The delays
need not agree, so the schedules and the random words may differ. A teardown in both makes any two
connections alike from there on.
-/

namespace OpsConsole

namespace LinkEvent

/-- The event with its number counted from those given out before. All of these count as zero. -/
def relative (links timers : Nat) : LinkEvent → LinkEvent
  | opened n => opened (n - links)
  | received n raw => received (n - links) raw
  | lost n => lost (n - links)
  | due n => due (n - timers)
  | e => e

end LinkEvent

theorem Phase.isActive_congr {p q : Phase} (h : p.state = q.state) : p.isActive = q.isActive := by
  cases p <;> cases q <;> first | rfl | cases h

theorem Phase.eq_connecting_iff {p : Phase} {n : Nat} :
    p = .connecting n ↔ p.state = .connecting ∧ p.link? = some n := by
  cases p <;> simp [Phase.state, Phase.link?]

theorem Phase.no_link_iff {p q : Phase} (hp : p.link? = none) (hq : q.link? = none) (n m : Nat) :
    p.link? = some n ↔ q.link? = some m := by
  simp [hp, hq]

theorem Inbox.receive_congr {limits : Limits} {a b : Inbox limits} (h : a.channels = b.channels)
    (frameLimit : Nat) (raw : String) :
    (a.receive frameLimit raw).1.channels = (b.receive frameLimit raw).1.channels := by
  unfold receive
  cases Frame.decode frameLimit raw with
  | ok f => simp only [routed, h]
  | error cause => exact h

namespace Connection

variable {o : LinkOptions} {schedule : Schedule} {words : WordSource}

/-- Agreement of two connections from the points where so many links and timers had been given
out. -/
structure Alike (links timers links' timers' : Nat) (c : Connection o)
    (d : Connection { o with schedule := schedule, words := words }) : Prop where
  state : c.phase.state = d.phase.state
  link : ∀ n m, n - links = m - links' → (c.phase.link? = some n ↔ d.phase.link? = some m)
  timer : ∀ n m, n - timers = m - timers' → c.awaits n = d.awaits m
  links_since : ∃ k, c.links = links + k ∧ d.links = links' + k
  timers_since : ∃ k, c.timers = timers + k ∧ d.timers = timers' + k
  token : c.token = d.token
  channels : c.inbox.channels = d.inbox.channels
  subscriptions : c.subscriptions = d.subscriptions

variable {links timers links' timers' : Nat} {c : Connection o}
  {d : Connection { o with schedule := schedule, words := words }}

theorem next_number_iff {base base' count count' n m : Nat}
    (hcount : ∃ k, count = base + k ∧ count' = base' + k) (hnm : n - base = m - base') :
    count + 1 = n ↔ count' + 1 = m := by
  obtain ⟨k, hk, hk'⟩ := hcount
  omega

theorem next_count {base base' count count' : Nat}
    (hcount : ∃ k, count = base + k ∧ count' = base' + k) :
    ∃ k, count + 1 = base + k ∧ count' + 1 = base' + k := by
  obtain ⟨k, hk, hk'⟩ := hcount
  exact ⟨k + 1, by omega, by omega⟩

theorem tearsDown_connect_congr (h : c.token = d.token) (s : Session) :
    c.tearsDown (.connect s) = d.tearsDown (.connect s) := by
  simp only [tearsDown, h]

namespace Alike

theorem openLink (h : Alike links timers links' timers' c d) :
    Alike links timers links' timers' (Connection.openLink { c with phase := .idle }).1
      (Connection.openLink { d with phase := .idle }).1 := by
  have htoken := h.token
  cases ht : c.token with
  | none =>
    rw [ht] at htoken
    simp only [Connection.openLink, ← htoken]
    exact ⟨rfl, fun n m _ => Phase.no_link_iff rfl rfl n m, fun _ _ _ => rfl, h.links_since,
      h.timers_since, rfl, h.channels, h.subscriptions⟩
  | some token =>
    rw [ht] at htoken
    simp only [Connection.openLink, ← htoken]
    refine ⟨rfl, ?_, fun _ _ _ => rfl, next_count h.links_since, h.timers_since, rfl,
      h.channels, h.subscriptions⟩
    intro n m hnm
    simpa [Phase.link?] using next_number_iff h.links_since hnm

theorem joined (hl : ∃ k, c.links = links + k ∧ d.links = links' + k)
    (ht : ∃ k, c.timers = timers + k ∧ d.timers = timers' + k) (s : Session)
    (hc : (c.joined s).inbox.channels = (d.joined s).inbox.channels)
    (hs : (c.joined s).subscriptions = (d.joined s).subscriptions) :
    Alike links timers links' timers' (c.joined s) (d.joined s) := by
  refine ⟨rfl, ?_, fun _ _ _ => rfl, next_count hl, ht, rfl, hc, hs⟩
  intro n m hnm
  simpa [Connection.joined, Phase.link?] using next_number_iff hl hnm

theorem connect (h : Alike links timers links' timers' c d) (s : Session) :
    Alike links timers links' timers' (c.connect s).1 (d.connect s).1 := by
  have hactive := Phase.isActive_congr h.state
  by_cases hsame : c.phase.isActive ∧ c.token = some s.token
  · have hsame' : d.phase.isActive ∧ d.token = some s.token := by
      rwa [hactive, h.token] at hsame
    rw [connect_of_same hsame, connect_of_same hsame']
    exact h
  · have hsame' : ¬ (d.phase.isActive ∧ d.token = some s.token) := by
      rwa [hactive, h.token] at hsame
    rw [connect_of_not_same hsame, connect_of_not_same hsame']
    have hdown := tearsDown_connect_congr h.token s
    refine joined h.links_since h.timers_since s ?_ ?_
    · simp only [Connection.joined, hdown]
      split
      · rfl
      · exact h.channels
    · simp only [Connection.joined, hdown, h.subscriptions]

theorem opened (h : Alike links timers links' timers' c d) {n m : Nat}
    (hnm : n - links = m - links') :
    Alike links timers links' timers' (c.opened n) (d.opened m) := by
  by_cases hc : c.phase = .connecting n
  · have hd : d.phase = .connecting m := by
      rw [Phase.eq_connecting_iff] at hc ⊢
      exact ⟨h.state.symm.trans hc.1, (h.link n m hnm).1 hc.2⟩
    rw [opened_of_eq hc, opened_of_eq hd]
    refine ⟨rfl, ?_, fun _ _ _ => rfl, h.links_since, h.timers_since, h.token, h.channels,
      h.subscriptions⟩
    intro a b hab
    have hlink := h.link a b hab
    rwa [hc, hd] at hlink
  · have hd : d.phase ≠ .connecting m := by
      intro hd
      rw [Phase.eq_connecting_iff] at hd
      exact hc (Phase.eq_connecting_iff.2 ⟨h.state.trans hd.1, (h.link n m hnm).2 hd.2⟩)
    rw [opened_of_ne hc, opened_of_ne hd]
    exact h

theorem received (h : Alike links timers links' timers' c d) {n m : Nat}
    (hnm : n - links = m - links') (raw : String) :
    Alike links timers links' timers' (c.received n raw).1 (d.received m raw).1 := by
  have hlink := h.link n m hnm
  by_cases hc : c.phase.link? = some n
  · rw [received_of_eq hc, received_of_eq (hlink.1 hc)]
    exact ⟨h.state, h.link, h.timer, h.links_since, h.timers_since, h.token,
      Inbox.receive_congr h.channels o.frameLimit raw, h.subscriptions⟩
  · rw [received_of_ne hc, received_of_ne fun hd => hc (hlink.2 hd)]
    exact h

theorem lost (h : Alike links timers links' timers' c d) {n m : Nat}
    (hnm : n - links = m - links') :
    Alike links timers links' timers' (c.lost n).1 (d.lost m).1 := by
  have hlink := h.link n m hnm
  by_cases hc : c.phase.link? = some n
  · rw [lost_of_eq hc, lost_of_eq (hlink.1 hc)]
    refine ⟨rfl, fun n m _ => Phase.no_link_iff rfl rfl n m, ?_, h.links_since,
      next_count h.timers_since, h.token, h.channels, h.subscriptions⟩
    intro a b hab
    simpa [awaits, Phase.timer?] using next_number_iff h.timers_since hab
  · rw [lost_of_ne hc, lost_of_ne fun hd => hc (hlink.2 hd)]
    exact h

theorem due (h : Alike links timers links' timers' c d) {n m : Nat}
    (hnm : n - timers = m - timers') :
    Alike links timers links' timers' (c.due n).1 (d.due m).1 := by
  have htimer := h.timer n m hnm
  cases hc : c.awaits n with
  | true =>
    rw [due_of_awaits hc, due_of_awaits (htimer.symm.trans hc)]
    exact h.openLink
  | false =>
    rw [due_of_not_awaits hc, due_of_not_awaits (htimer.symm.trans hc)]
    exact h

end Alike

theorem alike_step (h : Alike links timers links' timers' c d) {e e' : LinkEvent}
    (he : e.relative links timers = e'.relative links' timers') :
    Alike links timers links' timers' (c.step e).1 (d.step e').1 := by
  cases e <;> cases e' <;>
    simp only [LinkEvent.relative, reduceCtorEq, LinkEvent.connect.injEq, LinkEvent.opened.injEq,
      LinkEvent.received.injEq, LinkEvent.lost.injEq, LinkEvent.due.injEq,
      LinkEvent.subscribe.injEq, LinkEvent.unsubscribe.injEq, LinkEvent.acknowledge.injEq] at he
  case connect.connect s s' =>
    subst he
    exact h.connect s
  case disconnect.disconnect =>
    exact ⟨rfl, fun n m _ => Phase.no_link_iff rfl rfl n m, fun _ _ _ => rfl, h.links_since,
      h.timers_since, rfl, rfl, rfl⟩
  case opened.opened n m => exact h.opened he
  case received.received n raw m raw' =>
    obtain ⟨hnm, rfl⟩ := he
    exact h.received hnm raw
  case lost.lost n m => exact h.lost he
  case due.due n m => exact h.due he
  case subscribe.subscribe process process' =>
    subst he
    exact ⟨h.state, h.link, h.timer, h.links_since, h.timers_since, h.token, h.channels,
      congrArg (·.insert process) h.subscriptions⟩
  case unsubscribe.unsubscribe process process' =>
    subst he
    exact ⟨h.state, h.link, h.timer, h.links_since, h.timers_since, h.token,
      congrArg (·.dropLines process) h.channels, congrArg (·.erase process) h.subscriptions⟩
  case acknowledge.acknowledge id id' =>
    subst he
    exact ⟨h.state, h.link, h.timer, h.links_since, h.timers_since, h.token,
      congrArg (·.acknowledge id) h.channels, h.subscriptions⟩

theorem alike_run (h : Alike links timers links' timers' c d) {es es' : List LinkEvent}
    (he : es.map (·.relative links timers) = es'.map (·.relative links' timers')) :
    Alike links timers links' timers' (c.run es).1 (d.run es').1 := by
  induction es generalizing c d es' with
  | nil =>
    cases es' with
    | nil => exact h
    | cons e' rest' => cases he
  | cons e rest ih =>
    cases es' with
    | nil => cases he
    | cons e' rest' =>
      obtain ⟨hhead, htail⟩ := List.cons.inj he
      exact ih (alike_step h hhead) htail

/-- A teardown leaves nothing by which two connections could differ later on. -/
theorem alike_of_tearsDown {e : LinkEvent} (hc : c.tearsDown e = true)
    (hd : d.tearsDown e = true) :
    Alike c.links c.timers d.links d.timers (c.step e).1 (d.step e).1 := by
  cases e with
  | disconnect =>
    exact ⟨rfl, fun n m _ => Phase.no_link_iff rfl rfl n m, fun _ _ _ => rfl, ⟨0, rfl, rfl⟩,
      ⟨0, rfl, rfl⟩, rfl, rfl, rfl⟩
  | connect s =>
    have hsame : ¬ (c.phase.isActive ∧ c.token = some s.token) := by
      rintro ⟨_, ht⟩
      simp [tearsDown, ht] at hc
    have hsame' : ¬ (d.phase.isActive ∧ d.token = some s.token) := by
      rintro ⟨_, ht⟩
      simp [tearsDown, ht] at hd
    simp only [step, connect_of_not_same hsame, connect_of_not_same hsame']
    refine Alike.joined ⟨0, rfl, rfl⟩ ⟨0, rfl, rfl⟩ s ?_ ?_
    · simp only [joined, hc, hd, if_true]
      rfl
    · simp only [joined, hc, hd, if_true]
  | _ => cases hc

end Connection

end OpsConsole
