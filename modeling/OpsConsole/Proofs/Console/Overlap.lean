import Mathlib.Data.List.Basic
import OpsConsole.Proofs.Console.Binding
import OpsConsole.Proofs.Link.Credentials

/-!
# Operations that overlap

A sign-in or a sign-out changes the session first and gives its orders to the feed afterwards. The
watcher looks at the status first and disconnects the feed afterwards. Others may come in between:
further operations, a refusal of the token, the feed itself. An order is late when the status was
announced again since the change, or the look, that it follows from.

Once nothing is under way the feed holds the token of the last order. An order that is not late asks
for what the store holds, so the feed is then in step with the session. It is out of step exactly
when the last order was late and asks for something else: a sign-in connects although its session
has expired meanwhile, or an older order ends the feed of a session that has begun meanwhile.
-/

namespace OpsConsole

/-- What a step orders the feed to do: to hold a token, or none. -/
def ConsoleStep.order? : ConsoleStep → Option (Option BearerToken)
  | .feed (.connect s) => some (some s.token)
  | .feed .disconnect => some none
  | _ => none

structure Errand where
  steps : List ConsoleStep
  /-- The number of announcements after its last change of the store. -/
  noted : Nat

structure FeedOrder where
  token? : Option BearerToken
  late : Bool

/-- A console with its operations under way. -/
structure Overlap (o : LinkOptions) where
  console : Console o
  underway : List Errand
  /-- The last order to the feed. -/
  last : Option FeedOrder

/-- Who comes next. -/
inductive Turn
  /-- A sign-in begins, by seeing whether there is a session. -/
  | signIn (session : Session)
  | signOut
  /-- An operation takes its next step. -/
  | proceed (n : Nat)
  | refuse (token : BearerToken)
  /-- The watcher looks, unless it has yet to disconnect the feed. -/
  | observe
  | react
  | feed (e : LinkEvent) (passive : e.isPassive = true)

namespace Console

variable {o : LinkOptions} {c : Console o}

/-- The feed runs with the token of the session that is held, and does not run without one. -/
def InStep (c : Console o) : Prop :=
  match c.store.session with
  | none => c.client.published ≠ .connecting ∧ c.client.published ≠ .live ∧
      c.client.published ≠ .reconnecting
  | some session => c.client.connection.token = some session.token ∧ c.client.published ≠ .closed

/-- A sign-in that succeeds takes its steps one after another, if no one else comes between. -/
theorem signIn_eq_run {transport : Transport} {credentials : Credentials} {admission : Admission}
    (h : (c.signIn transport credentials).result.2 = .ok admission) :
    (c.signIn transport credentials).result.1 =
      c.run (signingIn c.store.isAuthenticated admission.session ++ watching) := by
  have hstore := SessionStore.signedIn_signIn c.base transport c.store credentials
  rw [Console.signIn, Exchange.map] at h ⊢
  dsimp only [after] at h ⊢
  generalize (SessionStore.signIn c.base transport c.store credentials).result = r at hstore h ⊢
  cases hstore with
  | failed e => cases h
  | begun session =>
    cases h
    rfl

theorem signOut_eq_run (c : Console o) : c.signOut.1 = c.run (signingOut ++ watching) := rfl

end Console

namespace Overlap

open Console

variable {o : LinkOptions} {s : Overlap o}

def start (base : Url) (store : SessionStore) : Overlap o := ⟨.start base store, [], none⟩

/-- The next step of an operation. A step that is no order changes the store. -/
def proceed (s : Overlap o) (n : Nat) : Overlap o :=
  match s.underway[n]? with
  | some ⟨e :: rest, noted⟩ =>
    let console := (s.console.step e).1
    match e.order? with
    | some token? =>
      ⟨console, s.underway.set n ⟨rest, noted⟩, some ⟨token?, noted ≠ s.console.store.announced⟩⟩
    | none => ⟨console, s.underway.set n ⟨rest, console.store.announced⟩, s.last⟩
  | _ => s

def step (s : Overlap o) : Turn → Overlap o
  | .signIn session =>
    { s with
      underway := s.underway ++ [⟨signingIn s.console.store.isAuthenticated session, 0⟩] }
  | .signOut => { s with underway := s.underway ++ [⟨signingOut, 0⟩] }
  | .proceed n => s.proceed n
  | .refuse token => { s with console := (s.console.step (.invalidate token)).1 }
  | .observe =>
    if s.console.watcher.alarmed then s else { s with console := (s.console.step .observe).1 }
  | .react =>
    if s.console.watcher.alarmed then
      { s with
        console := (s.console.step .react).1
        last := some ⟨none, s.console.watcher.seen ≠ s.console.store.announced⟩ }
    else s
  | .feed e _ => { s with console := (s.console.step (.feed e)).1 }

def run (s : Overlap o) (ts : List Turn) : Overlap o := ts.foldl step s

/-- No operation is under way, and the watcher has seen every announcement and has nothing left to
do. -/
def Quiet (s : Overlap o) : Prop :=
  (∀ x ∈ s.underway, x.steps = []) ∧
    s.console.watcher = ⟨s.console.store.announced, false⟩

instance (s : Overlap o) : Decidable s.Quiet :=
  inferInstanceAs (Decidable (_ ∧ _))

theorem proceed_of_none {n : Nat} (h : s.underway[n]? = none) : s.proceed n = s := by
  rw [proceed, h]

theorem proceed_of_done {n noted : Nat} (h : s.underway[n]? = some ⟨[], noted⟩) :
    s.proceed n = s := by
  rw [proceed, h]

theorem proceed_of_order {n noted : Nat} {e : ConsoleStep} {rest : List ConsoleStep}
    {token? : Option BearerToken} (h : s.underway[n]? = some ⟨e :: rest, noted⟩)
    (he : e.order? = some token?) :
    s.proceed n = ⟨(s.console.step e).1, s.underway.set n ⟨rest, noted⟩,
      some ⟨token?, noted ≠ s.console.store.announced⟩⟩ := by
  simp only [proceed, h, he]

theorem proceed_of_change {n noted : Nat} {e : ConsoleStep} {rest : List ConsoleStep}
    (h : s.underway[n]? = some ⟨e :: rest, noted⟩) (he : e.order? = none) :
    s.proceed n = ⟨(s.console.step e).1,
      s.underway.set n ⟨rest, (s.console.step e).1.store.announced⟩, s.last⟩ := by
  simp only [proceed, h, he]

end Overlap

/-! ### Changes of the store -/

namespace SessionStore

variable {s s' : SessionStore}

/-- A store that leaves the session and its status as they are, or makes an announcement. -/
def Succeeds (s s' : SessionStore) : Prop :=
  s'.session = s.session ∧ s'.status = s.status ∧ s'.announced = s.announced ∨
    s'.announced = s.announced + 1

theorem succeeds_establish (s : SessionStore) (session : Session) :
    s.Succeeds (s.establish session).1 :=
  .inr rfl

theorem succeeds_signOut (s : SessionStore) : s.Succeeds s.signOut.1 := by
  by_cases h : s.session.isSome ∨ s.status ≠ .signedOut
  · refine .inr ?_
    rw [signOut, if_pos h]
    rfl
  · obtain ⟨hsession, hstatus⟩ := not_or.1 h
    have hnone : s.session = none := Option.not_isSome_iff_eq_none.1 hsession
    refine .inl ⟨s.session_signOut.trans hnone.symm,
      s.status_signOut.trans (Decidable.not_not.1 hstatus).symm, ?_⟩
    rw [signOut, if_neg h]
    rfl

theorem succeeds_expire (s : SessionStore) : s.Succeeds s.expire := .inr rfl

theorem Succeeds.announced_le (h : s.Succeeds s') : s.announced ≤ s'.announced := by
  obtain ⟨-, -, hsame⟩ | hnew := h
  · exact Nat.le_of_eq hsame.symm
  · rw [hnew]
    exact Nat.le_succ _

theorem Succeeds.same_of_le (h : s.Succeeds s') {n : Nat} (hn : n ≤ s.announced)
    (hnow : n = s'.announced) :
    n = s.announced ∧ s'.session = s.session ∧ s'.status = s.status := by
  obtain ⟨hsession, hstatus, hsame⟩ | hnew := h
  · exact ⟨hnow.trans hsame, hsession, hstatus⟩
  · omega

end SessionStore

/-! ### What the steps leave behind -/

/-- What an operation has yet to order, and the token that the feed holds once it has. -/
inductive Owes : List ConsoleStep → Option BearerToken → Prop
  | session (hadSession : Bool) (s : Session) :
    Owes (Console.following hadSession s) (some s.token)
  | none : Owes [.feed .disconnect] none

/-- An operation that has not begun, is done, or owes what the store holds unless that was announced
again. -/
inductive Errand.Sound (store : SessionStore) : Errand → Prop
  | entering (hadSession : Bool) (session : Session) (noted : Nat) :
    Sound store ⟨Console.signingIn hadSession session, noted⟩
  | leaving (noted : Nat) : Sound store ⟨Console.signingOut, noted⟩
  | owing {steps : List ConsoleStep} {token? : Option BearerToken} {noted : Nat}
    (hsteps : Owes steps token?) (hnoted : noted ≤ store.announced)
    (hheld : noted = store.announced → token? = store.token?) : Sound store ⟨steps, noted⟩
  | done (noted : Nat) : Sound store ⟨[], noted⟩

theorem Errand.Sound.succeeds {x : Errand} {store store' : SessionStore} (h : x.Sound store)
    (hstore : store.Succeeds store') : x.Sound store' := by
  cases h with
  | entering hadSession session noted => exact .entering hadSession session noted
  | leaving noted => exact .leaving noted
  | owing hsteps hnoted hheld =>
    refine .owing hsteps (Nat.le_trans hnoted hstore.announced_le) fun hnow => ?_
    obtain ⟨hbefore, hsession, -⟩ := hstore.same_of_le hnoted hnow
    rw [hheld hbefore, SessionStore.token?, SessionStore.token?, hsession]
  | done noted => exact .done noted

namespace Console

variable {o : LinkOptions} {c : Console o}

/-- What the feed, the store and the watcher keep to between any two steps. -/
structure Steady (c : Console o) : Prop where
  settled : c.client.connection.Settled
  published : c.client.published = c.client.connection.phase.state
  seen : c.watcher.seen ≤ c.store.announced
  expired : c.store.status = .expired → c.store.session = none
  alarmed : c.watcher.alarmed = true → c.watcher.seen = c.store.announced →
    c.store.status = .expired

theorem steady_start (base : Url) (file : TokenFile) (files : Files) :
    (start base (.start file files) : Console o).Steady where
  settled := rfl
  published := rfl
  seen := Nat.le_refl _
  expired := nofun
  alarmed := nofun

theorem Steady.succeeds (h : c.Steady) {store : SessionStore} (hstore : c.store.Succeeds store)
    (hexpired : store.status = .expired → store.session = none) :
    { c with store }.Steady where
  settled := h.settled
  published := h.published
  seen := Nat.le_trans h.seen hstore.announced_le
  expired := hexpired
  alarmed ha hnow := by
    obtain ⟨hbefore, -, hstatus⟩ := hstore.same_of_le h.seen hnow
    exact hstatus.trans (h.alarmed ha hbefore)

theorem Steady.onFeed (h : c.Steady) (e : LinkEvent) : (c.onFeed e).1.Steady where
  settled := Connection.settled_step h.settled e
  published := published_onFeed h.published e
  seen := h.seen
  expired := h.expired
  alarmed := h.alarmed

theorem Steady.observe (h : c.Steady) : c.observe.Steady := by
  by_cases hseen : c.watcher.seen = c.store.announced
  · rw [Console.observe, if_pos hseen]
    exact h
  · rw [Console.observe, if_neg hseen]
    exact ⟨h.settled, h.published, Nat.le_refl _, h.expired, fun ha _ => of_decide_eq_true ha⟩

theorem Steady.calm (h : c.Steady) :
    { c with watcher := { c.watcher with alarmed := false } }.Steady :=
  ⟨h.settled, h.published, h.seen, h.expired, nofun⟩

theorem react_of_alarmed (h : c.watcher.alarmed = true) :
    c.react = { c with watcher := { c.watcher with alarmed := false } }.onFeed .disconnect :=
  if_pos h

theorem inStep_iff (h : c.Steady) : c.InStep ↔ c.client.connection.token = c.store.token? := by
  have hactive : c.client.connection.phase.isActive = c.client.connection.token.isSome := h.settled
  rw [SessionStore.token?]
  cases hsession : c.store.session with
  | none =>
    have hidle : c.InStep ↔ ¬ c.client.connection.phase.isActive = true := by
      rw [InStep, hsession, h.published, Phase.isActive_iff_state, not_or, not_or]
    rw [hidle, hactive, Option.map_none, Option.not_isSome_iff_eq_none]
  | some session =>
    rw [InStep, hsession, h.published, Option.map_some]
    refine ⟨And.left, fun htoken => ⟨htoken, fun hclosed => ?_⟩⟩
    rw [htoken, Phase.not_isActive_iff_state.2 (.inr hclosed)] at hactive
    cases hactive

end Console

namespace Overlap

open Console

variable {o : LinkOptions} {s : Overlap o}

/-- An order that is not late is still to come. -/
def Due (s : Overlap o) : Prop :=
  (∃ x ∈ s.underway, x.noted = s.console.store.announced ∧ ∃ token?, Owes x.steps token?) ∨
    s.console.store.status = .expired ∧
      (s.console.watcher.seen ≠ s.console.store.announced ∨ s.console.watcher.alarmed = true)

/-- The feed holds what the store does, unless the last order was late or one that is not is still
to come. -/
structure Sound (s : Overlap o) : Prop where
  steady : s.console.Steady
  errands : ∀ x ∈ s.underway, x.Sound s.console.store
  ordered : s.console.client.connection.token = s.last.bind (·.token?)
  follows : (∃ order, s.last = some order ∧ order.late = true) ∨
    s.console.client.connection.token = s.console.store.token? ∨ s.Due

theorem sound_start (base : Url) (file : TokenFile) (files : Files) :
    (start base (.start file files) : Overlap o).Sound where
  steady := steady_start base file files
  errands := nofun
  ordered := rfl
  follows := .inr (.inl rfl)

theorem Sound.add (h : s.Sound) {x : Errand} (hx : x.Sound s.console.store) :
    { s with underway := s.underway ++ [x] }.Sound where
  steady := h.steady
  errands y hy := by
    obtain hbefore | hnew := List.mem_append.1 hy
    · exact h.errands y hbefore
    · rwa [List.mem_singleton.1 hnew]
  ordered := h.ordered
  follows := by
    obtain hlate | htoken | ⟨y, hy, howes⟩ | hwatcher := h.follows
    · exact .inl hlate
    · exact .inr (.inl htoken)
    · exact .inr (.inr (.inl ⟨y, List.mem_append_left _ hy, howes⟩))
    · exact .inr (.inr (.inr hwatcher))

theorem sound_of_mem_set {store : SessionStore} {n : Nat} {x y : Errand}
    (h : ∀ x ∈ s.underway, x.Sound store) (hx : x.Sound store) (hy : y ∈ s.underway.set n x) :
    y.Sound store := by
  obtain hbefore | rfl := List.mem_or_eq_of_mem_set hy
  · exact h y hbefore
  · exact hx

theorem mem_set_of_getElem? {n : Nat} {x : Errand} (h : s.underway[n]? = some x) (y : Errand) :
    y ∈ s.underway.set n y :=
  List.mem_set (List.getElem?_eq_some_iff.1 h).1 y

theorem Sound.change (h : s.Sound) {n noted : Nat} {e : ConsoleStep} {rest : List ConsoleStep}
    (hx : s.underway[n]? = some ⟨e :: rest, noted⟩) (he : e.order? = none) {store : SessionStore}
    (hstep : (s.console.step e).1 = { s.console with store })
    (hstore : s.console.store.Succeeds store)
    (hexpired : store.status = .expired → store.session = none)
    (hrest : Owes rest store.token?) : (s.proceed n).Sound := by
  rw [proceed_of_change hx he, hstep]
  have howing : (⟨rest, store.announced⟩ : Errand).Sound store :=
    .owing hrest (Nat.le_refl _) fun _ => rfl
  refine ⟨h.steady.succeeds hstore hexpired, fun y hy => ?_, h.ordered, ?_⟩
  · exact sound_of_mem_set (fun x hmem => (h.errands x hmem).succeeds hstore) howing hy
  · exact .inr (.inr (.inl ⟨_, mem_set_of_getElem? hx _, rfl, _, hrest⟩))

theorem Sound.order (h : s.Sound) {n noted : Nat} {e : LinkEvent} {rest : List ConsoleStep}
    {token? : Option BearerToken} (hx : s.underway[n]? = some ⟨.feed e :: rest, noted⟩)
    (he : (ConsoleStep.feed e).order? = some token?)
    (htoken : (s.console.client.connection.step e).1.token = token?)
    (hrest : (⟨rest, noted⟩ : Errand).Sound s.console.store)
    (hnow : noted = s.console.store.announced →
      token? = s.console.store.token? ∨ ∃ token?, Owes rest token?) :
    (s.proceed n).Sound := by
  rw [proceed_of_order hx he]
  refine ⟨h.steady.onFeed e, fun y hy => sound_of_mem_set h.errands hrest hy, htoken, ?_⟩
  by_cases hlate : noted = s.console.store.announced
  · obtain hheld | howes := hnow hlate
    · exact .inr (.inl (htoken.trans hheld))
    · exact .inr (.inr (.inl ⟨_, mem_set_of_getElem? hx _, hlate, howes⟩))
  · exact .inl ⟨_, rfl, decide_eq_true hlate⟩

theorem Sound.proceed (h : s.Sound) (n : Nat) : (s.proceed n).Sound := by
  cases hx : s.underway[n]? with
  | none =>
    rw [proceed_of_none hx]
    exact h
  | some x =>
    cases h.errands x (List.mem_of_getElem? hx) with
    | entering hadSession session noted =>
      refine h.change hx rfl rfl (SessionStore.succeeds_establish _ session) ?_
        (.session hadSession session)
      rw [SessionStore.status_establish]
      exact nofun
    | leaving noted =>
      have hsession := s.console.store.session_signOut
      refine h.change hx rfl rfl (SessionStore.succeeds_signOut _) (fun _ => hsession) ?_
      rw [SessionStore.token?_eq_none_iff.2 hsession]
      exact .none
    | owing hsteps hnoted hheld =>
      cases hsteps with
      | session hadSession session =>
        have hconnect : Owes (following false session) (some session.token) :=
          .session false session
        cases hadSession with
        | true =>
          exact h.order hx rfl rfl (.owing hconnect hnoted hheld) fun _ => .inr ⟨_, hconnect⟩
        | false =>
          exact h.order hx rfl (Connection.token_connect _ session) (.done _)
            fun hnow => .inl (hheld hnow)
      | none => exact h.order hx rfl rfl (.done _) fun hnow => .inl (hheld hnow)
    | done noted =>
      rw [proceed_of_done hx]
      exact h

theorem Sound.refuse (h : s.Sound) (token : BearerToken) : (s.step (.refuse token)).Sound := by
  by_cases hheld : s.console.store.token? = some token
  · have hstep : (s.console.step (.invalidate token)).1 =
        { s.console with store := s.console.store.expire } := by
      rw [Console.step, SessionStore.invalidate_of_held hheld]
    have hstore := s.console.store.succeeds_expire
    rw [step, hstep]
    refine ⟨h.steady.succeeds hstore fun _ => rfl, fun x hx => (h.errands x hx).succeeds hstore,
      h.ordered, .inr (.inr (.inr ⟨rfl, .inl ?_⟩))⟩
    exact Nat.ne_of_lt (Nat.lt_succ_of_le h.steady.seen)
  · have hstep : (s.console.step (.invalidate token)).1 = s.console := by
      rw [Console.step, SessionStore.invalidate_of_not_held hheld]
    rw [step, hstep]
    exact h

theorem Sound.observe (h : s.Sound) : (s.step .observe).Sound := by
  rw [step]
  split
  · exact h
  · next hcalm =>
    by_cases hseen : s.console.watcher.seen = s.console.store.announced
    · have hstep : (s.console.step .observe).1 = s.console := if_pos hseen
      rw [hstep]
      exact h
    · have hobserve := h.steady.observe
      have hstep : (s.console.step .observe).1 = { s.console with
          watcher := ⟨s.console.store.announced, s.console.store.status = .expired⟩ } :=
        if_neg hseen
      rw [hstep]
      refine ⟨hstep ▸ hobserve, h.errands, h.ordered, ?_⟩
      obtain hlate | htoken | howes | ⟨hexpired, -⟩ := h.follows
      · exact .inl hlate
      · exact .inr (.inl htoken)
      · exact .inr (.inr (.inl howes))
      · exact .inr (.inr (.inr ⟨hexpired, .inr (decide_eq_true hexpired)⟩))

theorem Sound.react (h : s.Sound) : (s.step .react).Sound := by
  cases ha : s.console.watcher.alarmed with
  | false =>
    rw [step, ha]
    exact h
  | true =>
    rw [step, if_pos ha, Console.step, react_of_alarmed ha]
    refine ⟨h.steady.calm.onFeed .disconnect, h.errands, rfl, ?_⟩
    by_cases hseen : s.console.watcher.seen = s.console.store.announced
    · have hnone := h.steady.expired (h.steady.alarmed ha hseen)
      exact .inr (.inl (SessionStore.token?_eq_none_iff.2 hnone).symm)
    · exact .inl ⟨_, rfl, decide_eq_true hseen⟩

theorem Sound.feed (h : s.Sound) {e : LinkEvent} (he : e.isPassive = true) :
    (s.step (.feed e he)).Sound := by
  have htoken : (s.console.onFeed e).1.client.connection.token =
      s.console.client.connection.token := Connection.token_step_of_passive he
  refine ⟨h.steady.onFeed e, h.errands, htoken.trans h.ordered, ?_⟩
  obtain hlate | hheld | hdue := h.follows
  · exact .inl hlate
  · exact .inr (.inl (htoken.trans hheld))
  · exact .inr (.inr hdue)

theorem Sound.step (h : s.Sound) (t : Turn) : (s.step t).Sound := by
  cases t with
  | signIn session => exact h.add (.entering _ session _)
  | signOut => exact h.add (.leaving _)
  | proceed n => exact h.proceed n
  | refuse token => exact h.refuse token
  | observe => exact h.observe
  | react => exact h.react
  | feed e he => exact h.feed he

theorem Sound.run (h : s.Sound) (ts : List Turn) : (s.run ts).Sound := by
  induction ts generalizing s with
  | nil => exact h
  | cons t ts ih => exact ih (h.step t)

theorem not_owes_nil {token? : Option BearerToken} : ¬ Owes [] token? := by
  generalize hsteps : ([] : List ConsoleStep) = steps
  intro h
  cases h with
  | session hadSession session => cases hadSession <;> cases hsteps
  | none => cases hsteps

theorem not_due_of_quiet (h : s.Quiet) : ¬ s.Due := by
  rintro (⟨x, hx, -, token?, howes⟩ | ⟨-, hseen | halarmed⟩)
  · rw [h.1 x hx] at howes
    exact not_owes_nil howes
  · exact hseen (by rw [h.2])
  · rw [h.2] at halarmed
    cases halarmed

/-- Whatever operations, refusals and looks of the watcher overlapped: the feed holds what the last
order to it asked for, and once nothing is under way it is out of step with the session exactly when
that order was late and asked for something else than the store holds. -/
theorem out_of_step_iff (base : Url) (file : TokenFile) (files : Files) (ts : List Turn)
    (hs : (start base (.start file files)).run ts = s) (hquiet : s.Quiet) :
    s.console.client.connection.token = s.last.bind (·.token?) ∧
      (¬ s.console.InStep ↔ ∃ order, s.last = some order ∧ order.late = true ∧
        order.token? ≠ s.console.store.token?) := by
  have hsound : s.Sound := hs ▸ (sound_start base file files).run ts
  rw [inStep_iff hsound.steady]
  refine ⟨hsound.ordered, ?_⟩
  constructor
  · intro hout
    obtain ⟨order, hlast, hlate⟩ | hheld | hdue := hsound.follows
    · have htoken : s.console.client.connection.token = order.token? := by
        rw [hsound.ordered, hlast]
        rfl
      exact ⟨order, hlast, hlate, htoken ▸ hout⟩
    · exact (hout hheld).elim
    · exact (not_due_of_quiet hquiet hdue).elim
  · rintro ⟨order, hlast, -, hother⟩
    rw [hsound.ordered, hlast]
    exact hother

/-- A session expires, and the watcher looks only after the next one has begun: all orders are in
time, and the feed is in step with the new session. -/
theorem in_step_of_punctual :
    let o : LinkOptions := ⟨BackoffPolicy.standard.schedule, fun _ => 0, {}, Frame.defaultLimit⟩
    let base : Url := ⟨"http", some ⟨"", "", .name "localhost", none⟩, .rooted [""], none, none,
      false⟩
    let first : Session := ⟨⟨"first", by decide, by decide⟩, default⟩
    let second : Session := ⟨⟨"second", by decide, by decide⟩, default⟩
    let ts : List Turn := [.signIn first, .proceed 0, .proceed 0, .refuse first.token,
      .signIn second, .proceed 1, .observe, .proceed 1]
    let s : Overlap o := (start base (.start ⟨"token"⟩ Files.empty)).run ts
    s.Quiet ∧ s.console.store.token? = some second.token ∧ s.console.InStep := by
  intro o base first second ts s
  have hquiet : s.Quiet := by decide +kernel
  have htoken : s.console.store.token? = some second.token := by decide +kernel
  have hlast : s.last.map (·.late) = some false := by decide +kernel
  obtain ⟨-, hiff⟩ := out_of_step_iff base ⟨"token"⟩ Files.empty ts (Eq.refl s) hquiet
  clear_value s
  refine ⟨hquiet, htoken, ?_⟩
  by_contra hout
  obtain ⟨order, horder, hlate, -⟩ := hiff.1 hout
  rw [horder, Option.map_some, hlate] at hlast
  cases hlast

/-- A sign-in connects although its token was refused meanwhile, and nothing disconnects the feed
any more. The watcher, having seen that a session expired, disconnects the feed of the next one. -/
theorem overtaken_out_of_step :
    let o : LinkOptions := ⟨BackoffPolicy.standard.schedule, fun _ => 0, {}, Frame.defaultLimit⟩
    let base : Url := ⟨"http", some ⟨"", "", .name "localhost", none⟩, .rooted [""], none, none,
      false⟩
    let first : Session := ⟨⟨"first", by decide, by decide⟩, default⟩
    let second : Session := ⟨⟨"second", by decide, by decide⟩, default⟩
    let signedOut : Overlap o := (start base (.start ⟨"token"⟩ Files.empty)).run
      [.signIn first, .proceed 0, .refuse first.token, .observe, .react, .proceed 0]
    let signedIn : Overlap o := (start base (.start ⟨"token"⟩ Files.empty)).run
      [.signIn first, .proceed 0, .proceed 0, .refuse first.token, .observe, .signIn second,
        .proceed 1, .proceed 1, .react, .observe]
    (signedOut.Quiet ∧ signedOut.console.store.session = none ∧
      signedOut.console.client.published = .connecting ∧ ¬ signedOut.console.InStep) ∧
    (signedIn.Quiet ∧ signedIn.console.store.session = some second ∧
      signedIn.console.client.published = .closed ∧ ¬ signedIn.console.InStep) := by
  intro o base first second signedOut signedIn
  constructor
  · have hquiet : signedOut.Quiet := by decide +kernel
    have hsession : signedOut.console.store.session = none := by decide +kernel
    have hpublished : signedOut.console.client.published = .connecting := by decide +kernel
    clear_value signedOut
    refine ⟨hquiet, hsession, hpublished, fun hin => ?_⟩
    rw [InStep, hsession] at hin
    exact hin.1 hpublished
  · have hquiet : signedIn.Quiet := by decide +kernel
    have hsession : signedIn.console.store.session = some second := by decide +kernel
    have hpublished : signedIn.console.client.published = .closed := by decide +kernel
    clear_value signedIn
    refine ⟨hquiet, hsession, hpublished, fun hin => ?_⟩
    rw [InStep, hsession] at hin
    exact hin.2 hpublished

end Overlap

end OpsConsole
