import OpsConsole.Proofs.Backend.Performance

/-!
# Replies that come late

Requests are under way at the same time, and sessions begin and end meanwhile. A reply changes the
store only when it refuses the token that its request was sent with, while the store still holds
that very token. So what is said to an earlier session does not touch a later one, and of all
refusals of one session the first counts and no other, until a session with its token begins.
-/

namespace OpsConsole

/-- A request under way, and the token that the store held when it was sent. -/
structure Flight where
  request : Request
  held : Option BearerToken

structure Traffic where
  store : SessionStore
  flights : List Flight

inductive TrafficStep
  | act (a : Action)
  | order (o : Order)
  /-- The reply to one of the requests under way has come, or none will. -/
  | complete (n : Nat) (reply : Option Reply)
  | establish (session : Session)
  | signOut

namespace Traffic

variable {base : Url} {t : Traffic}

/-- Sends what was prepared, if it can be sent. -/
def depart (t : Traffic) : Except ActionError Request → Traffic
  | .error _ => t
  | .ok r => if r.isSendable then { t with flights := t.flights ++ [⟨r, t.store.token?⟩] } else t

def complete (t : Traffic) (n : Nat) (reply : Option Reply) : Traffic :=
  match t.flights[n]? with
  | none => t
  | some f => ⟨t.store.settle f.request reply, t.flights.eraseIdx n⟩

def step (base : Url) (t : Traffic) : TrafficStep → Traffic
  | .act a => t.depart (Backend.prepare base t.store a)
  | .order o => t.depart (Backend.request base t.store o)
  | .complete n reply => t.complete n reply
  | .establish session => { t with store := (t.store.establish session).1 }
  | .signOut => { t with store := t.store.signOut.1 }

def run (base : Url) (t : Traffic) (es : List TrafficStep) : Traffic := es.foldl (step base) t

def start (s : SessionStore) : Traffic := ⟨s, []⟩

@[simp] theorem store_depart (t : Traffic) (x : Except ActionError Request) :
    (t.depart x).store = t.store := by
  cases x with
  | error e => rfl
  | ok r =>
    rw [depart]
    split <;> rfl

theorem complete_of_flight {n : Nat} {f : Flight} (h : t.flights[n]? = some f)
    (reply : Option Reply) :
    t.complete n reply = ⟨t.store.settle f.request reply, t.flights.eraseIdx n⟩ := by
  rw [complete, h]

theorem complete_of_no_flight {n : Nat} (h : t.flights[n]? = none) (reply : Option Reply) :
    t.complete n reply = t := by
  rw [complete, h]

/-- An action whose reply comes before anything else happens is one that is performed. -/
theorem store_act_complete {a : Action} {r : Request}
    (h : Backend.prepare base t.store a = .ok r) (hsend : r.isSendable = true)
    (transport : Transport) :
    ((t.step base (.act a)).complete t.flights.length (transport.send r).result.toOption).store =
      (Backend.perform base transport t.store a).result.1 := by
  have hact : t.step base (.act a) =
      { t with flights := t.flights ++ [⟨r, t.store.token?⟩] } := by
    rw [step, h, depart, if_pos hsend]
  have hflight : (t.step base (.act a)).flights[t.flights.length]? =
      some ⟨r, t.store.token?⟩ := by
    rw [hact]
    exact List.getElem?_concat_length
  rw [complete_of_flight hflight, hact, Backend.perform, h, Backend.complete]
  rfl

theorem exists_flight {helds : List (Option BearerToken)} {held : Option BearerToken} {n : Nat}
    (h : t.flights.map (·.held) = helds) (hn : helds[n]? = some held) :
    ∃ f, t.flights[n]? = some f ∧ f.held = held := by
  rwa [← h, List.getElem?_map, Option.map_eq_some_iff] at hn

/-- Every request under way carries the token that was held when it was sent. -/
def Labelled (t : Traffic) : Prop := ∀ f ∈ t.flights, f.request.token = f.held

theorem token_of_request {s : SessionStore} {o : Order} {r : Request}
    (h : Backend.request base s o = .ok r) : r.token = s.token? := by
  rw [Backend.request] at h
  split at h
  · cases h
  · cases h
    rfl

theorem token_of_prepare {s : SessionStore} {a : Action} {r : Request}
    (h : Backend.prepare base s a = .ok r) : r.token = s.token? := by
  rw [Backend.prepare] at h
  split at h
  · exact token_of_request h
  · cases h

theorem labelled_depart {x : Except ActionError Request} (ht : t.Labelled)
    (hx : ∀ r, x = .ok r → r.token = t.store.token?) : (t.depart x).Labelled := by
  cases x with
  | error e => exact ht
  | ok r =>
    rw [depart]
    split
    · intro f hf
      obtain hf | hf := List.mem_append.1 hf
      · exact ht f hf
      · rw [List.mem_singleton.1 hf]
        exact hx r rfl
    · exact ht

theorem labelled_step (ht : t.Labelled) (e : TrafficStep) : (t.step base e).Labelled := by
  cases e with
  | act a => exact labelled_depart ht fun r => token_of_prepare
  | order o => exact labelled_depart ht fun r => token_of_request
  | complete n reply =>
    rw [step]
    cases hf : t.flights[n]? with
    | none => rwa [complete_of_no_flight hf]
    | some f =>
      rw [complete_of_flight hf]
      exact fun g hg => ht g (List.mem_of_mem_eraseIdx hg)
  | establish session => exact ht
  | signOut => exact ht

theorem labelled_run (ht : t.Labelled) (es : List TrafficStep) : (t.run base es).Labelled := by
  induction es generalizing t with
  | nil => exact ht
  | cons e es ih => exact ih (labelled_step ht e)

/-- The reply to a request under way refuses the token that is still held. -/
def Ends (t : Traffic) (f : Flight) (reply : Option Reply) : Prop :=
  ∃ answer token, reply = some answer ∧ answer.status = 401 ∧ f.held = some token ∧
    t.store.token? = some token

theorem ends_iff_refused {f : Flight} {reply : Option Reply} (h : f.request.token = f.held) :
    t.Ends f reply ↔ t.store.Refused f.request reply := by
  simp only [Ends, SessionStore.Refused, Reply.isUnauthorized_iff, h]

theorem store_complete_of_ends (ht : t.Labelled) {n : Nat} {f : Flight}
    (hf : t.flights[n]? = some f) {reply : Option Reply} (h : t.Ends f reply) :
    (t.complete n reply).store = t.store.expire := by
  have hlabel := ht f (List.mem_of_getElem? hf)
  rw [complete_of_flight hf]
  exact SessionStore.settle_of_refused ((ends_iff_refused hlabel).1 h)

theorem store_complete_of_not_ends (ht : t.Labelled) {n : Nat} {f : Flight}
    (hf : t.flights[n]? = some f) {reply : Option Reply} (h : ¬ t.Ends f reply) :
    (t.complete n reply).store = t.store := by
  have hlabel := ht f (List.mem_of_getElem? hf)
  rw [complete_of_flight hf]
  exact SessionStore.settle_of_not_refused (mt (ends_iff_refused hlabel).2 h)

theorem store_complete_eq_or (t : Traffic) (n : Nat) (reply : Option Reply) :
    (t.complete n reply).store = t.store ∨ (t.complete n reply).store = t.store.expire := by
  cases hf : t.flights[n]? with
  | none => exact .inl (congrArg store (complete_of_no_flight hf reply))
  | some f =>
    rw [complete_of_flight hf]
    exact (t.store.settle_eq_or f.request reply).imp_right And.left

end Traffic

/-- Whether a step begins a session with this token. -/
def TrafficStep.Brings (token : BearerToken) (e : TrafficStep) : Prop :=
  ∃ session, e = .establish session ∧ session.token = token

namespace Traffic

variable {base : Url} {t : Traffic} {token : BearerToken}

theorem token?_step_ne (h : t.store.token? ≠ some token) {e : TrafficStep}
    (he : ¬ e.Brings token) : (t.step base e).store.token? ≠ some token := by
  cases e with
  | act a => rwa [step, store_depart]
  | order o => rwa [step, store_depart]
  | complete n reply =>
    obtain hkept | hexpired := t.store_complete_eq_or n reply
    · rwa [step, hkept]
    · rw [step, hexpired, SessionStore.token?_expire]
      exact (Option.some_ne_none token).symm
  | establish session =>
    intro hs
    exact he ⟨session, rfl, Option.some.inj hs⟩
  | signOut =>
    rw [step, SessionStore.token?, SessionStore.session_signOut]
    exact (Option.some_ne_none token).symm

theorem token?_run_ne (h : t.store.token? ≠ some token) {es : List TrafficStep}
    (hes : ∀ e ∈ es, ¬ e.Brings token) : (t.run base es).store.token? ≠ some token := by
  induction es generalizing t with
  | nil => exact h
  | cons e es ih =>
    have he : (t.step base e).store.token? ≠ some token :=
      token?_step_ne h (hes e List.mem_cons_self)
    exact ih he fun e' he' => hes e' (List.mem_cons_of_mem e he')

/-- What a reply to a request under way comes to. -/
structure Completed (base : Url) (t : Traffic) (n : Nat) (f : Flight) : Prop where
  header : f.request.authorization? = f.held.map fun token => "Bearer " ++ token.text
  /-- Nothing but a refusal of the token that is held changes the store. -/
  changes : ∀ reply, (t.complete n reply).store ≠ t.store → ∃ answer token,
    reply = some answer ∧ answer.status = 401 ∧ f.held = some token ∧ t.store.token? = some token
  stale : ∀ token, f.held = some token → t.store.token? ≠ some token →
    ∀ reply, (t.complete n reply).store = t.store
  ends : ∀ answer token, answer.status = 401 → f.held = some token →
    t.store.token? = some token →
      (t.complete n (some answer)).store.session = none ∧
        (t.complete n (some answer)).store.status = .expired ∧
        (t.store.forget.2 = .ok () → (t.complete n (some answer)).store.saved? = .ok none)
  /-- The first refusal is the only one with an effect, until a session with the token begins. -/
  first : ∀ answer token, answer.status = 401 → f.held = some token →
    t.store.token? = some token → ∀ later : List TrafficStep, (∀ e ∈ later, ¬ e.Brings token) →
      let t' := (t.complete n (some answer)).run base later
      ∀ m g, t'.flights[m]? = some g → g.held = some token →
        ∀ reply, (t'.complete m reply).store = t'.store

theorem completed (ht : t.Labelled) {n : Nat} {f : Flight} (hf : t.flights[n]? = some f) :
    Completed base t n f := by
  have hlabel := ht f (List.mem_of_getElem? hf)
  refine ⟨?_, ?_, ?_, ?_, ?_⟩
  · rw [Request.authorization?, hlabel]
    rfl
  · intro reply hchanged
    by_cases hends : t.Ends f reply
    · exact hends
    · exact absurd (store_complete_of_not_ends ht hf hends) hchanged
  · intro token hheld hnot reply
    refine store_complete_of_not_ends ht hf ?_
    rintro ⟨-, other, -, -, hother, hstore⟩
    rw [hheld] at hother
    exact hnot (hother ▸ hstore)
  · intro answer token hstatus hheld hstore
    rw [store_complete_of_ends ht hf ⟨answer, token, rfl, hstatus, hheld, hstore⟩]
    exact ⟨rfl, rfl, SessionStore.saved?_expire⟩
  · intro answer token hstatus hheld hstore later hlater t' m g hg hgheld reply
    have hexpired := store_complete_of_ends ht hf ⟨answer, token, rfl, hstatus, hheld, hstore⟩
    have hgone : t'.store.token? ≠ some token := by
      refine token?_run_ne ?_ hlater
      rw [hexpired, SessionStore.token?_expire]
      exact (Option.some_ne_none token).symm
    have hcomplete : (t.step base (.complete n (some answer))).Labelled := labelled_step ht _
    have hlabelled : t'.Labelled := labelled_run hcomplete later
    refine store_complete_of_not_ends hlabelled hg ?_
    rintro ⟨-, other, -, -, hother, hother'⟩
    rw [hgheld] at hother
    exact hgone (hother ▸ hother')

theorem labelled_start (s : SessionStore) : (start s).Labelled :=
  fun _ hf => absurd hf List.not_mem_nil

/-- However requests, replies, sign-ins and sign-outs follow each other, every reply comes to what
`Completed` says. -/
theorem replies_completed (base : Url) (s : SessionStore) (es : List TrafficStep) :
    let t := (start s).run base es
    ∀ n f, t.flights[n]? = some f → Completed base t n f :=
  fun _ _ hf => completed (labelled_run (labelled_start s) es) hf

/-- Of three refusals, the one to an earlier session does nothing. Of those to the session that is
held the first ends it, and the next does nothing to the session that has begun by then. -/
theorem three_refusals :
    let base : Url := ⟨"http", some ⟨"", "", .name "localhost", none⟩, .rooted [""], none, none,
      false⟩
    let earlier : Session := ⟨⟨"abc", by decide, by decide⟩, default⟩
    let later : Session := ⟨⟨"xyz", by decide, by decide⟩, default⟩
    let refusal : Reply := ⟨401, none, none⟩
    let t := (start (.start ⟨"token"⟩ Files.empty)).run base
      [.establish earlier, .order .health, .establish later, .order .health, .order .health]
    let t' := (t.complete 1 (some refusal)).run base [.establish earlier]
    t.flights.map (·.held) = [some earlier.token, some later.token, some later.token] ∧
      t'.flights.map (·.held) = [some earlier.token, some later.token] ∧
      (t.complete 0 (some refusal)).store = t.store ∧
      (t.complete 1 (some refusal)).store.session = none ∧
      (t'.complete 1 (some refusal)).store = t'.store := by
  intro base earlier later refusal t t'
  have hheld : t.flights.map (·.held) =
      [some earlier.token, some later.token, some later.token] := by
    decide +kernel
  have hheld' : t'.flights.map (·.held) = [some earlier.token, some later.token] := by
    decide +kernel
  have hstore : t.store.token? = some later.token := by decide +kernel
  have hother : t.store.token? ≠ some earlier.token := by
    rw [hstore]
    decide
  have hbrings : ∀ e ∈ [TrafficStep.establish earlier], ¬ e.Brings later.token := by
    intro e he
    rw [List.mem_singleton.1 he]
    rintro ⟨session, hsession, htoken⟩
    cases hsession
    exact absurd htoken (by decide)
  have hcompleted : ∀ n f, t.flights[n]? = some f → Completed base t n f :=
    replies_completed base (.start ⟨"token"⟩ Files.empty)
      [.establish earlier, .order .health, .establish later, .order .health, .order .health]
  obtain ⟨f, hf, hfheld⟩ := exists_flight (n := 0) hheld rfl
  obtain ⟨g, hg, hgheld⟩ := exists_flight (n := 1) hheld rfl
  obtain ⟨k, hk, hkheld⟩ := exists_flight (n := 1) hheld' rfl
  refine ⟨hheld, hheld', ?_, ?_, ?_⟩
  · exact (hcompleted 0 f hf).stale earlier.token hfheld hother (some refusal)
  · obtain ⟨hnone, -, -⟩ := (hcompleted 1 g hg).ends refusal later.token rfl hgheld hstore
    exact hnone
  · exact (hcompleted 1 g hg).first refusal later.token rfl hgheld hstore
      [.establish earlier] hbrings 1 k hk hkheld (some refusal)

end Traffic

end OpsConsole
