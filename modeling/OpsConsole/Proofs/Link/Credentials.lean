import OpsConsole.Proofs.Link.Phases

/-!
# The token that links are opened with

A connection holds the token of the last connect, or none. A link is opened by a connect, with its
token, or by the timer, with the token held; so every link that is opened carries the token of the
last connect before it, however often the link was lost in between.

A connect binds the connection to its token. Only a disconnect or a connect with another token
ends that; meanwhile the connection is active, and another connect with the same token, whoever
the user is, changes nothing and calls nothing.
-/

namespace OpsConsole

namespace LinkEvent

/-- The token that an event connects with. -/
def token? : LinkEvent → Option BearerToken
  | connect s => some s.token
  | _ => none

/-- Whether an event leaves a connection bound to a token. -/
def keeps (token : BearerToken) : LinkEvent → Bool
  | connect s => s.token = token
  | disconnect => false
  | _ => true

theorem token?_of_isPassive {e : LinkEvent} (h : e.isPassive = true) : e.token? = none := by
  cases e with
  | connect s => cases h
  | _ => rfl

/-- The token of the last connect. -/
def lastToken (es : List LinkEvent) : Option BearerToken := (es.filterMap token?).getLast?

theorem lastToken_concat (es : List LinkEvent) (e : LinkEvent) :
    lastToken (es ++ [e]) = e.token?.or (lastToken es) := by
  cases h : e.token? <;> simp [lastToken, List.filterMap_append, h]

end LinkEvent

namespace Connection

variable {o : LinkOptions} {c : Connection o}

theorem token_connect (c : Connection o) (s : Session) : (c.connect s).1.token = some s.token := by
  by_cases hsame : c.phase.isActive ∧ c.token = some s.token
  · rw [connect_of_same hsame]
    exact hsame.2
  · rw [connect_of_not_same hsame]
    rfl

theorem lastToken_of_token (es : List LinkEvent) {token : BearerToken}
    (h : ((start : Connection o).run es).1.token = some token) :
    LinkEvent.lastToken es = some token := by
  induction es using List.reverseRecOn generalizing token with
  | nil => cases h
  | append_singleton es e ih =>
    rw [run_append, run_cons, run_nil] at h
    rw [LinkEvent.lastToken_concat]
    cases he : e.isPassive with
    | true =>
      rw [token_step_of_passive he] at h
      rw [LinkEvent.token?_of_isPassive he]
      exact ih h
    | false =>
      cases e with
      | connect s =>
        rw [step, token_connect] at h
        exact h
      | disconnect => cases h
      | _ => cases he

/-- A link is opened with the token of the connect that opens it, or with the one held. -/
theorem token_of_openLink_mem_step {e : LinkEvent} {link : Nat} {token : BearerToken}
    (h : .openLink link token ∈ (c.step e).2) :
    e.token? = some token ∨ e.token? = none ∧ c.token = some token := by
  cases e with
  | connect s =>
    by_cases hsame : c.phase.isActive ∧ c.token = some s.token
    · rw [step, connect_of_same hsame] at h
      cases h
    · rw [step, connect_of_not_same hsame] at h
      obtain hrelease | hopen := List.mem_append.1 h
      · exact (openLink_not_mem_release _ _ _ hrelease).elim
      · cases List.mem_singleton.1 hopen
        exact .inl rfl
  | due timer =>
    cases hdue : c.awaits timer with
    | false =>
      rw [step, due_of_not_awaits hdue] at h
      cases h
    | true =>
      rw [step, due_of_awaits hdue, openLink] at h
      cases htoken : c.token with
      | none => simp [htoken] at h
      | some held =>
        simp only [htoken, List.mem_singleton, Call.openLink.injEq] at h
        exact .inr ⟨rfl, by rw [h.2]⟩
  | _ => exact (openLink_not_mem_step rfl link token h).elim

/-- Active, and with this token. -/
def Holds (c : Connection o) (token : BearerToken) : Prop :=
  c.phase.isActive = true ∧ c.token = some token

theorem holds_iff (h : c.Settled) {token : BearerToken} :
    c.Holds token ↔ c.token = some token := by
  refine ⟨And.right, fun htoken => ⟨?_, htoken⟩⟩
  rw [h, htoken]
  rfl

theorem holds_connect (h : c.Settled) (s : Session) : (c.connect s).1.Holds s.token :=
  (holds_iff (settled_step h (.connect s))).2 (token_connect c s)

theorem Holds.step {token : BearerToken} (h : c.Holds token) (hc : c.Settled) {e : LinkEvent}
    (he : e.keeps token = true) : (c.step e).1.Holds token := by
  refine (holds_iff (settled_step hc e)).2 ?_
  cases hpassive : e.isPassive with
  | true =>
    rw [token_step_of_passive hpassive]
    exact h.2
  | false =>
    cases e with
    | connect s =>
      have hsame : s.token = token := of_decide_eq_true he
      rw [Connection.step, token_connect, hsame]
    | disconnect => cases he
    | _ => cases hpassive

theorem Holds.run {token : BearerToken} (h : c.Holds token) (hc : c.Settled)
    {es : List LinkEvent} (hes : ∀ e ∈ es, e.keeps token = true) : (c.run es).1.Holds token := by
  induction es generalizing c with
  | nil => exact h
  | cons e rest ih =>
    obtain ⟨he, hrest⟩ := List.forall_mem_cons.1 hes
    exact ih (h.step hc he) (settled_step hc e) hrest

/-- Wherever a run has led, a link that the next event opens carries the token of the last connect,
that event included. After a connect, and as long as nothing disconnects or connects with another
token, the connection is connecting, live or reconnecting with the token of the session, and a
connect with that token changes nothing and calls nothing. -/
theorem links_carry_last_token (es : List LinkEvent) :
    let c := ((start : Connection o).run es).1
    (∀ e link token, .openLink link token ∈ (c.step e).2 →
      LinkEvent.lastToken (es ++ [e]) = some token) ∧
    (∀ s later, (∀ e ∈ later, e.keeps s.token = true) →
      let d := ((c.connect s).1.run later).1
      (d.phase.state = .connecting ∨ d.phase.state = .live ∨ d.phase.state = .reconnecting) ∧
      d.token = some s.token ∧
      ∀ s', s'.token = s.token → d.connect s' = (d, [])) := by
  intro c
  have hsettled : c.Settled := (orderly_start.run es).settled
  refine ⟨?_, ?_⟩
  · intro e link token hopen
    rw [LinkEvent.lastToken_concat]
    obtain hnew | ⟨hnone, hheld⟩ := token_of_openLink_mem_step hopen
    · rw [hnew]
      rfl
    · rw [hnone]
      exact lastToken_of_token es hheld
  · intro s later hlater d
    have hconnected : (c.connect s).1.Settled := settled_step hsettled (.connect s)
    have hholds : d.Holds s.token := (holds_connect hsettled s).run hconnected hlater
    refine ⟨Phase.isActive_iff_state.1 hholds.1, hholds.2, ?_⟩
    intro s' hs'
    rw [← hs'] at hholds
    exact connect_of_same hholds

/-- The timer of a lost link opens the next one with the token of the session that connected. While
that one is up, a session of another user with the same token connects to no effect. -/
theorem reopened_with_same_token :
    let o : LinkOptions := ⟨BackoffPolicy.standard.schedule, fun _ => 0, {}, Frame.defaultLimit⟩
    let s : Session := ⟨⟨"token", by decide, by decide⟩, default⟩
    let s' : Session := ⟨s.token, { (default : User) with username := "other" }⟩
    let later : List LinkEvent := [.lost 1, .due 1, .opened 2, .lost 1, .subscribe "web"]
    let c := ((start : Connection o).run [.connect s, .lost 1]).1
    let d := (((start : Connection o).connect s).1.run later).1
    .openLink 2 s.token ∈ (c.step (.due 1)).2 ∧
      LinkEvent.lastToken [.connect s, .lost 1, .due 1] = some s.token ∧
      d.phase.state = .live ∧ d.token = some s.token ∧ d.connect s' = (d, []) := by
  intro o s s' later c d
  have hopen : .openLink 2 s.token ∈ (c.step (.due 1)).2 := List.mem_singleton_self _
  have hlater : ∀ e ∈ later, e.keeps s.token = true := by decide
  obtain ⟨-, htoken, hsame⟩ := (links_carry_last_token (o := o) []).2 s later hlater
  exact ⟨hopen, (links_carry_last_token [.connect s, .lost 1]).1 (.due 1) 2 s.token hopen, rfl,
    htoken, hsame s' rfl⟩

end Connection

end OpsConsole
