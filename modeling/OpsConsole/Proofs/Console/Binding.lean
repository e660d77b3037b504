import OpsConsole.Console
import OpsConsole.Proofs.Backend.Performance
import OpsConsole.Proofs.Link.Activity
import OpsConsole.Proofs.SignIn.Entrance

/-!
# The feed follows the session

Operations run one after another, and the watcher has looked before the next one begins. Then the
feed is active with the token of the session exactly while there is a session, and without one it
is idle or closed, with nothing received. A session that begins finds the channels empty and opens
a new link with its token; where it takes the place of another, no log lines are wanted any more.
-/

namespace OpsConsole

/-- What an operator does, or the feed reports, with the transport as it is then. -/
inductive Operation
  | signIn (transport : Transport) (credentials : Credentials)
  | resume (transport : Transport)
  | signOut
  | perform (transport : Transport) (a : Action)
  | execute (transport : Transport) (o : Order)
  | checkHealth (transport : Transport) (h : Health)
  | feed (e : LinkEvent) (passive : e.isPassive = true)

namespace Console

variable {o : LinkOptions} {c : Console o}

def operate (c : Console o) : Operation → Console o × List Call
  | .signIn transport credentials => (c.signIn transport credentials).result.1
  | .resume transport => (c.resume transport).result.1
  | .signOut => c.signOut.1
  | .perform transport a => (c.perform transport a).result.1
  | .execute transport order =>
    (c.onStore (Backend.execute c.base transport c.store order)).result.1
  | .checkHealth transport h => (c.checkHealth transport h).result.1
  | .feed e _ => c.run (.feed e :: watching)

def operateAll (c : Console o) (ops : List Operation) : Console o :=
  ops.foldl (fun c op => (c.operate op).1) c

@[simp] theorem run_nil (c : Console o) : c.run [] = (c, []) := rfl

@[simp] theorem run_cons (c : Console o) (e : ConsoleStep) (rest : List ConsoleStep) :
    c.run (e :: rest) =
      (((c.step e).1.run rest).1, (c.step e).2 ++ ((c.step e).1.run rest).2) := rfl

theorem run_append (c : Console o) (a b : List ConsoleStep) :
    c.run (a ++ b) = (((c.run a).1.run b).1, (c.run a).2 ++ ((c.run a).1.run b).2) :=
  Machine.run_append step c a b

/-- The console once the watcher has seen every announcement and has nothing left to do. -/
def looked (c : Console o) : Console o := { c with watcher := ⟨c.store.announced, false⟩ }

theorem looked_of_seen (h : c.watcher = ⟨c.store.announced, false⟩) : c.looked = c := by
  rw [looked, ← h]

theorem run_watching_of_seen (h : c.watcher = ⟨c.store.announced, false⟩) :
    c.run watching = (c, []) := by
  have hobserve : c.observe = c := if_pos (by rw [h])
  have hreact : c.react = (c, []) := if_neg (by rw [h]; exact Bool.false_ne_true)
  rw [watching, run_cons, step, hobserve, run_cons, step, hreact]
  rfl

theorem run_watching_of_not_expired (hcalm : c.watcher.alarmed = false)
    (hstatus : c.store.status ≠ .expired) : c.run watching = (c.looked, []) := by
  by_cases hseen : c.watcher.seen = c.store.announced
  · have hwatcher : c.watcher = ⟨c.store.announced, false⟩ := by rw [← hseen, ← hcalm]
    rw [run_watching_of_seen hwatcher, looked_of_seen hwatcher]
  · have hobserve : c.observe = c.looked := by
      rw [observe, if_neg hseen, looked, decide_eq_false hstatus]
    rw [watching, run_cons, step, hobserve]
    rfl

theorem run_watching_of_expired (hseen : c.watcher.seen ≠ c.store.announced)
    (hstatus : c.store.status = .expired) : c.run watching = c.looked.onFeed .disconnect := by
  have hobserve : c.observe = { c with watcher := ⟨c.store.announced, true⟩ } := by
    rw [observe, if_neg hseen, decide_eq_true hstatus]
  rw [watching, run_cons, step, hobserve, run_cons, List.nil_append, run_nil, List.append_nil]
  rfl

/-- The feed is bound to the session, and the watcher has seen every announcement. -/
structure Bound (c : Console o) : Prop where
  seen : c.watcher = ⟨c.store.announced, false⟩
  token : c.client.connection.token = c.store.token?
  settled : c.client.connection.Settled
  published : c.client.published = c.client.connection.phase.state
  empty : c.store.session = none → c.client.channels = ∅

theorem bound_start (base : Url) (file : TokenFile) (files : Files) :
    (start base (.start file files) : Console o).Bound :=
  ⟨rfl, rfl, rfl, rfl, fun _ => rfl⟩

theorem Bound.token_of_no_session (h : c.Bound) (hs : c.store.session = none) :
    c.client.connection.token = none :=
  h.token.trans (SessionStore.token?_eq_none_iff.2 hs)

theorem Bound.inactive_of_no_session (h : c.Bound) (hs : c.store.session = none) :
    c.client.connection.phase.isActive = false := by
  rw [h.settled, h.token_of_no_session hs]
  rfl

theorem published_onFeed (h : c.client.published = c.client.connection.phase.state)
    (e : LinkEvent) :
    (c.onFeed e).1.client.published = (c.onFeed e).1.client.connection.phase.state := by
  cases e with
  | subscribe process => exact h
  | unsubscribe process => exact h
  | acknowledge id => exact h
  | _ => rfl

theorem bound_disconnected (hs : c.store.session = none) :
    (c.looked.onFeed .disconnect).1.Bound :=
  ⟨rfl, (SessionStore.token?_eq_none_iff.2 hs).symm, rfl, rfl, fun _ => rfl⟩

/-- A change of the store that the watcher need not see. -/
theorem Bound.of_same (h : c.Bound) {s : SessionStore} (hs : s.session = c.store.session)
    (ha : s.announced = c.store.announced) :
    ({ c with store := s }.run watching).1.Bound := by
  have hseen : { c with store := s }.watcher = ⟨s.announced, false⟩ := by rw [ha, ← h.seen]
  rw [run_watching_of_seen hseen]
  refine ⟨hseen, ?_, h.settled, h.published, fun hnone => h.empty (hs ▸ hnone)⟩
  rw [h.token, SessionStore.token?, SessionStore.token?, hs]

theorem Bound.expire (h : c.Bound) : ({ c with store := c.store.expire }.run watching).1.Bound := by
  have hseen : c.watcher.seen ≠ c.store.expire.announced := by
    rw [h.seen, SessionStore.announced_expire]
    exact Nat.ne_of_lt (Nat.lt_succ_self _)
  rw [run_watching_of_expired hseen c.store.status_expire]
  exact bound_disconnected c.store.session_expire

theorem Bound.onStore {α : Type} (h : c.Bound) {x : Exchange (SessionStore × α)}
    (hx : x.result.1 = c.store ∨ x.result.1 = c.store.expire) :
    (c.onStore x).result.1.1.Bound := by
  change ({ c with store := x.result.1 }.run watching).1.Bound
  obtain hx | hx := hx
  · rw [hx]
    exact h.of_same rfl rfl
  · rw [hx]
    exact h.expire

theorem Bound.signOut (h : c.Bound) : c.signOut.1.1.Bound := by
  let c' : Console o := { c with store := c.store.signOut.1 }
  have hcalm : (c'.onFeed .disconnect).1.watcher.alarmed = false := by
    change c.watcher.alarmed = false
    rw [h.seen]
  have hstatus : (c'.onFeed .disconnect).1.store.status ≠ .expired := by
    change c.store.signOut.1.status ≠ .expired
    rw [SessionStore.status_signOut]
    decide
  change ((c'.onFeed .disconnect).1.run watching).1.Bound
  rw [run_watching_of_not_expired hcalm hstatus]
  exact bound_disconnected (c := c') c.store.session_signOut

theorem Bound.feed (h : c.Bound) {e : LinkEvent} (he : e.isPassive = true) :
    (c.run (.feed e :: watching)).1.Bound := by
  have hseen : (c.onFeed e).1.watcher = ⟨(c.onFeed e).1.store.announced, false⟩ := h.seen
  rw [run_cons, step, run_watching_of_seen hseen]
  refine ⟨hseen, ?_, Connection.settled_step h.settled e, published_onFeed h.published e, ?_⟩
  · exact (Connection.token_step_of_passive he).trans h.token
  · intro hnone
    exact Connection.channels_step_of_passive he (h.inactive_of_no_session hnone) (h.empty hnone)

/-- The console before it connects for a session that begins: the feed is disconnected first where
a session was held. -/
def detached (c : Console o) (hadSession : Bool) : Console o :=
  if hadSession then (c.onFeed .disconnect).1 else c

section Detached

variable (hadSession : Bool)

@[simp] theorem store_detached : (c.detached hadSession).store = c.store := by
  cases hadSession <;> rfl

@[simp] theorem watcher_detached : (c.detached hadSession).watcher = c.watcher := by
  cases hadSession <;> rfl

@[simp] theorem links_detached :
    (c.detached hadSession).client.connection.links = c.client.connection.links := by
  cases hadSession <;> rfl

theorem run_following (session : Session) : ∃ released, c.run (following hadSession session) =
    (((c.detached hadSession).onFeed (.connect session)).1,
      released ++ ((c.detached hadSession).onFeed (.connect session)).2) := by
  cases hadSession with
  | false => exact ⟨[], by simp [following, detached, step]⟩
  | true => exact ⟨(c.onFeed .disconnect).2, by simp [following, detached, step]⟩

theorem run_following_watching (hcalm : c.watcher.alarmed = false)
    (hstatus : c.store.status ≠ .expired) (session : Session) :
    ∃ released, c.run (following hadSession session ++ watching) =
      (((c.detached hadSession).onFeed (.connect session)).1.looked,
        released ++ ((c.detached hadSession).onFeed (.connect session)).2) := by
  obtain ⟨released, hfollowing⟩ := run_following (c := c) hadSession session
  have hwatching : ((c.detached hadSession).onFeed (.connect session)).1.run watching =
      (((c.detached hadSession).onFeed (.connect session)).1.looked, []) := by
    refine run_watching_of_not_expired ?_ ?_
    · change (c.detached hadSession).watcher.alarmed = false
      rw [watcher_detached, hcalm]
    · change (c.detached hadSession).store.status ≠ .expired
      rwa [store_detached]
  refine ⟨released, ?_⟩
  rw [run_append, hfollowing, hwatching, List.append_nil]

end Detached

theorem connection_connect (h : c.client.connection.token = none) (session : Session) :
    (c.onFeed (.connect session)).1.client.connection = c.client.connection.joined session :=
  congrArg Prod.fst (Connection.connect_of_no_token h session)

theorem openLink_mem_connect (h : c.client.connection.token = none) (session : Session) :
    .openLink (c.client.connection.links + 1) session.token ∈ (c.onFeed (.connect session)).2 := by
  change _ ∈ (c.client.connection.connect session).2
  rw [Connection.connect_of_no_token h session]
  exact List.mem_append_right _ List.mem_cons_self

/-- What a session that begins makes of a console and the calls on the way. -/
structure Renewed (c : Console o) (session : Session) (x : Console o × List Call) : Prop where
  held : x.1.store.session = some session
  empty : x.1.client.channels = ∅
  phase : x.1.client.connection.phase = .connecting (c.client.connection.links + 1)
  opened : .openLink (c.client.connection.links + 1) session.token ∈ x.2
  unsubscribed : c.store.isAuthenticated = true → x.1.client.connection.subscriptions = ∅

theorem Bound.detached (h : c.Bound) (s : SessionStore) :
    let d := { c with store := s }.detached c.store.isAuthenticated
    d.client.connection.token = none ∧ d.client.channels = ∅ ∧
      (c.store.isAuthenticated = true → d.client.connection.subscriptions = ∅) := by
  cases hauth : c.store.isAuthenticated with
  | true => exact ⟨rfl, rfl, fun _ => rfl⟩
  | false =>
    have hnone : c.store.session = none := by
      rwa [SessionStore.isAuthenticated, Option.isSome_eq_false_iff, Option.isNone_iff_eq_none]
        at hauth
    exact ⟨h.token_of_no_session hnone, h.empty hnone, nofun⟩

theorem bound_connected {session : Session} (htoken : c.client.connection.token = none)
    (hsession : c.store.session = some session) :
    (c.onFeed (.connect session)).1.looked.Bound := by
  have hfeed : (c.onFeed (.connect session)).1.looked.client.connection =
      c.client.connection.joined session :=
    connection_connect htoken session
  have hstore : (c.onFeed (.connect session)).1.looked.store = c.store := rfl
  refine ⟨rfl, ?_, ?_, rfl, ?_⟩
  · rw [hfeed, hstore, SessionStore.token?, hsession]
    rfl
  · rw [hfeed]
    rfl
  · intro hnone
    rw [hstore, hsession] at hnone
    cases hnone

theorem Bound.begin (h : c.Bound) (session : Session) :
    let x := { c with store := (c.store.establish session).1 }.run
      (following c.store.isAuthenticated session ++ watching)
    x.1.Bound ∧ Renewed c session x := by
  intro x
  let d := { c with store := (c.store.establish session).1 }.detached c.store.isAuthenticated
  have hlinks : d.client.connection.links = c.client.connection.links := links_detached _
  have hsession : d.store.session = some session := by
    rw [store_detached, SessionStore.session_establish]
  obtain ⟨htoken, hchannels, hsubscriptions⟩ : d.client.connection.token = none ∧
      d.client.channels = ∅ ∧
      (c.store.isAuthenticated = true → d.client.connection.subscriptions = ∅) :=
    h.detached _
  -- Nothing is held when the feed connects, so the connect is not ignored and tears nothing down.
  have hfeed := connection_connect htoken session
  obtain ⟨released, hx⟩ : ∃ released, x = ((d.onFeed (.connect session)).1.looked,
      released ++ (d.onFeed (.connect session)).2) := by
    refine run_following_watching _ ?_ ?_ session
    · change c.watcher.alarmed = false
      rw [h.seen]
    · change (c.store.establish session).1.status ≠ .expired
      rw [SessionStore.status_establish]
      exact nofun
  rw [hx]
  refine ⟨bound_connected htoken hsession, hsession, ?_, ?_, ?_, ?_⟩
  · change (d.onFeed (.connect session)).1.client.connection.inbox.channels = ∅
    rw [hfeed, Connection.inbox_joined_of_no_token htoken]
    exact hchannels
  · change (d.onFeed (.connect session)).1.client.connection.phase = _
    rw [hfeed, ← hlinks]
    rfl
  · rw [← hlinks]
    exact List.mem_append_right _ (openLink_mem_connect htoken session)
  · intro hauth
    change (d.onFeed (.connect session)).1.client.connection.subscriptions = ∅
    rw [hfeed, Connection.subscriptions_joined_of_no_token htoken]
    exact hsubscriptions hauth

theorem Bound.signIn (h : c.Bound) (transport : Transport) (credentials : Credentials) :
    let x := (c.signIn transport credentials).result
    x.1.1.Bound ∧ ∀ admission, x.2 = .ok admission → Renewed c admission.session x.1 := by
  have hstore := SessionStore.signedIn_signIn c.base transport c.store credentials
  rw [Console.signIn, Exchange.map]
  dsimp only [after]
  generalize (SessionStore.signIn c.base transport c.store credentials).result = r at hstore ⊢
  cases hstore with
  | failed e =>
    have hbound : ({ c with store := c.store }.run watching).1.Bound := h.of_same rfl rfl
    refine ⟨hbound, fun admission hok => ?_⟩
    cases hok
  | begun session =>
    obtain ⟨hbound, hrenewed⟩ := h.begin session
    refine ⟨hbound, ?_⟩
    rintro _ ⟨rfl⟩
    exact hrenewed

theorem Bound.resume (h : c.Bound) (transport : Transport) :
    let x := (c.resume transport).result
    x.1.1.Bound ∧ ∀ admission, x.2 = .resumed admission → Renewed c admission.session x.1 := by
  have hstore := SessionStore.resumed_resume c.base transport c.store
  have hkept : ({ c with store := c.store }.run watching).1.Bound := h.of_same rfl rfl
  rw [Console.resume, Exchange.map]
  dsimp only [after]
  generalize (SessionStore.resume c.base transport c.store).result = r at hstore ⊢
  cases hstore with
  | unreadable cause =>
    refine ⟨hkept, fun admission hok => ?_⟩
    cases hok
  | nothingSaved =>
    refine ⟨hkept, fun admission hok => ?_⟩
    cases hok
  | refused cause =>
    have hforgotten : ({ c with store := c.store.forget.1 }.run watching).1.Bound :=
      h.of_same c.store.session_forget c.store.announced_forget
    refine ⟨hforgotten, fun admission hok => ?_⟩
    cases hok
  | begun session =>
    obtain ⟨hbound, hrenewed⟩ := h.begin session
    refine ⟨hbound, ?_⟩
    rintro _ ⟨rfl⟩
    exact hrenewed

theorem signIn_of_taken {transport : Transport} {credentials : Credentials} {reply : SignInReply}
    {session : Session}
    (htaken : (Backend.login c.base transport credentials).result = .ok reply)
    (hsession : reply.session? = some session) :
    (c.signIn transport credentials).result.2 =
      .ok ⟨session, (c.store.establish session).2⟩ := by
  rw [Console.signIn, Exchange.map]
  dsimp only [after]
  rw [SessionStore.signIn_of_taken htaken hsession]

theorem resume_of_named {transport : Transport} {token : BearerToken} {user : User}
    (hsaved : c.store.saved? = .ok (some token))
    (hnamed : (Backend.currentUser c.base transport token).result = .ok user) :
    (c.resume transport).result.2 =
      .resumed ⟨⟨token, user⟩, (c.store.establish ⟨token, user⟩).2⟩ := by
  rw [Console.resume, Exchange.map]
  dsimp only [after]
  rw [SessionStore.resume_of_named hsaved hnamed]

theorem Bound.operate (h : c.Bound) (op : Operation) : (c.operate op).1.Bound := by
  cases op with
  | signIn transport credentials => exact (h.signIn transport credentials).1
  | resume transport => exact (h.resume transport).1
  | signOut => exact h.signOut
  | perform transport a =>
    exact h.onStore (Backend.complete_eq_or transport c.store _)
  | execute transport order =>
    exact h.onStore (Backend.complete_eq_or transport c.store _)
  | checkHealth transport health =>
    exact h.onStore (Backend.complete_eq_or transport c.store _)
  | feed e passive => exact h.feed passive

theorem Bound.operateAll (h : c.Bound) (ops : List Operation) : (c.operateAll ops).Bound := by
  induction ops generalizing c with
  | nil => exact h
  | cons op ops ih => exact ih (h.operate op)

/-- What holds between operations: the feed is active with the token of the session that is held,
and with no other. Credentials that are taken and saved tokens that are known begin a session, and
each session that begins renews the feed. -/
structure Follows (c : Console o) : Prop where
  active : ∀ token, (∃ s, c.store.session = some s ∧ s.token = token) ↔
    c.client.connection.token = some token ∧
      (c.client.published = .connecting ∨ c.client.published = .live ∨
        c.client.published = .reconnecting)
  inactive : c.store.session = none →
    (c.client.published = .idle ∨ c.client.published = .closed) ∧ c.client.channels = ∅
  published : c.client.published = c.client.connection.phase.state
  taken : ∀ transport credentials reply session,
    (Backend.login c.base transport credentials).result = .ok reply →
      reply.session? = some session → ∃ saved,
        (c.signIn transport credentials).result.2 = .ok ⟨session, saved⟩
  named : ∀ transport token user, c.store.saved? = .ok (some token) →
    (Backend.currentUser c.base transport token).result = .ok user → ∃ saved,
      (c.resume transport).result.2 = .resumed ⟨⟨token, user⟩, saved⟩
  signIn : ∀ transport credentials admission,
    (c.signIn transport credentials).result.2 = .ok admission →
      Renewed c admission.session (c.signIn transport credentials).result.1
  resume : ∀ transport admission, (c.resume transport).result.2 = .resumed admission →
    Renewed c admission.session (c.resume transport).result.1

theorem Bound.follows (h : c.Bound) : c.Follows := by
  refine ⟨fun token => ?_, fun hnone => ?_, h.published,
    fun _ _ _ _ htaken hsession => ⟨_, signIn_of_taken htaken hsession⟩,
    fun _ _ _ hsaved hnamed => ⟨_, resume_of_named hsaved hnamed⟩,
    fun transport credentials => (h.signIn transport credentials).2,
    fun transport => (h.resume transport).2⟩
  · have hheld : (∃ s, c.store.session = some s ∧ s.token = token) ↔
        c.client.connection.token = some token := by
      rw [h.token, SessionStore.token?, Option.map_eq_some_iff]
    rw [hheld, h.published, ← Phase.isActive_iff_state, h.settled]
    exact ⟨fun ht => ⟨ht, by rw [ht]; rfl⟩, And.left⟩
  · rw [h.published]
    exact ⟨Phase.not_isActive_iff_state.1 (h.inactive_of_no_session hnone), h.empty hnone⟩

/-- The feed follows the session through any operations. -/
theorem feed_follows_session (base : Url) (file : TokenFile) (files : Files)
    (ops : List Operation) :
    ((start base (.start file files) : Console o).operateAll ops).Follows :=
  ((bound_start base file files).operateAll ops).follows

/-- A sign-in with the token that is held already opens a second link, for which no log lines are
wanted yet, and so does a resumption with this token. -/
theorem same_token_renews :
    let o : LinkOptions := ⟨BackoffPolicy.standard.schedule, fun _ => 0, {}, Frame.defaultLimit⟩
    let base : Url := ⟨"http", some ⟨"", "", .name "localhost", none⟩, .rooted [""], none, none,
      false⟩
    let transport : Transport := .plain fun _ _ => some ⟨200, none, some (Text.Utf8.encode
      "\x7b\"token\":\"abc\",\"user\":\x7b\"id\":\"u1\"\x7d\x7d")⟩
    let ops : List Operation :=
      [.signIn transport ⟨"ops", "pw", none⟩, .feed (.subscribe "web") rfl]
    let c : Console o := (start base (.start ⟨"token"⟩ Files.empty)).operateAll ops
    let x := (c.signIn transport ⟨"ops", "pw", none⟩).result
    let y := (c.resume transport).result
    c.store.token?.map (·.text) = some "abc" ∧
      c.client.connection.subscriptions.items = ["web"] ∧
      (∃ admission, x.2 = .ok admission ∧ admission.session.token.text = "abc" ∧
        x.1.1.client.connection.phase = .connecting 2 ∧
        x.1.1.client.connection.subscriptions = ∅) ∧
      ∃ admission, y.2 = .resumed admission ∧ admission.session.token.text = "abc" ∧
        y.1.1.client.connection.phase = .connecting 2 ∧
        y.1.1.client.connection.subscriptions = ∅ := by
  intro o base transport ops c x y
  have htoken : c.store.token?.map (·.text) = some "abc" := by decide +kernel
  have hsubscriptions : c.client.connection.subscriptions.items = ["web"] := by decide +kernel
  have hauth : c.store.isAuthenticated = true := by decide +kernel
  have hlinks : c.client.connection.links = 1 := by decide +kernel
  have hx : x.2.toOption.map (·.session.token.text) = some "abc" := by decide +kernel
  have hfollows : c.Follows := feed_follows_session base ⟨"token"⟩ Files.empty ops
  refine ⟨htoken, hsubscriptions, ?_, ?_⟩
  · cases hadmission : x.2 with
    | error e =>
      rw [hadmission] at hx
      cases hx
    | ok admission =>
      rw [hadmission] at hx
      have htext : admission.session.token.text = "abc" := Option.some.inj hx
      have hrenewed : Renewed c admission.session x.1 :=
        hfollows.signIn transport ⟨"ops", "pw", none⟩ admission hadmission
      have hphase := hrenewed.phase
      rw [hlinks] at hphase
      exact ⟨admission, rfl, htext, hphase, hrenewed.unsubscribed hauth⟩
  · let token : BearerToken := ⟨"abc", by decide, by decide⟩
    have hsaved : c.store.saved? = .ok (some token) := eq_ok_of_toOption (by decide +kernel)
    obtain ⟨user, huser⟩ :
        ∃ user, (Backend.currentUser c.base transport token).result.toOption = some user :=
      Option.isSome_iff_exists.1 (by decide +kernel)
    obtain ⟨saved, hresumed⟩ := hfollows.named transport token user hsaved (eq_ok_of_toOption huser)
    have hrenewed : Renewed c ⟨token, user⟩ y.1 := hfollows.resume transport _ hresumed
    have hphase := hrenewed.phase
    rw [hlinks] at hphase
    exact ⟨_, hresumed, rfl, hphase, hrenewed.unsubscribed hauth⟩

end Console

end OpsConsole
