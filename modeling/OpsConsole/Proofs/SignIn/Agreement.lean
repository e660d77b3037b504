import Mathlib.Data.List.Induction
import OpsConsole.Proofs.SignIn.Entrance
import OpsConsole.Proofs.SignIn.Saving

/-!
# Session, status and token file agree

The store knows of its session in three places: the session itself, the status that is published,
and the token file. They agree after every operation, as long as the file can be written and
removed and nothing is resumed over a session. While there is a session the status names its user
and the file holds its token. While there is none nothing is permitted, and there is no token file,
unless no operation has come to it yet: in particular no token of a session outlives it there. The
status says that a session expired exactly from the refusal that ended it until the next sign-out
or the next session.
-/

namespace OpsConsole

/-- What may happen to a session store, with the backend as it is then. -/
inductive StoreEvent
  | establish (session : Session)
  | signIn (base : Url) (transport : Transport) (credentials : Credentials)
  | resume (base : Url) (transport : Transport)
  | signOut
  | refused (token : BearerToken)

namespace StoreEvent

def isResume : StoreEvent → Bool
  | resume .. => true
  | _ => false

end StoreEvent

/-- The user that a status names. -/
def SignInStatus.userId? : SignInStatus → Option String
  | signedIn id => some id
  | _ => none

/-- How the token file fared while resuming. -/
def Resumption.fileResult : Resumption → Except TokenFileError Unit
  | unreadable cause => .error cause
  | nothingSaved => .ok ()
  | refused _ removed => removed
  | resumed admission => admission.saved

namespace SessionStore

variable {s : SessionStore} {e : StoreEvent} {es : List StoreEvent}

/-- The store after an event, and how the token file fared. -/
def step (s : SessionStore) : StoreEvent → SessionStore × Except TokenFileError Unit
  | .establish session => s.establish session
  | .signIn base transport credentials =>
    match (signIn base transport s credentials).result with
    | (s, .ok admission) => (s, admission.saved)
    | (s, .error _) => (s, .ok ())
  | .resume base transport =>
    let (s, resumption) := (resume base transport s).result
    (s, resumption.fileResult)
  | .signOut => s.signOut
  | .refused token => (s.invalidate token, if s.token? = some token then s.forget.2 else .ok ())

def run (s : SessionStore) (es : List StoreEvent) : SessionStore :=
  es.foldl (fun s e => (s.step e).1) s

@[simp] theorem run_nil (s : SessionStore) : s.run [] = s := rfl

theorem run_concat (s : SessionStore) (es : List StoreEvent) (e : StoreEvent) :
    s.run (es ++ [e]) = ((s.run es).step e).1 := by
  rw [run, List.foldl_append]
  rfl

/-- Events that meet no failure of the token file, and resume only where there is no session. -/
def Smooth (s : SessionStore) : List StoreEvent → Prop
  | [] => True
  | e :: rest =>
    (s.step e).2 = .ok () ∧ (e.isResume = true → s.session = none) ∧ (s.step e).1.Smooth rest

theorem smooth_concat (h : s.Smooth (es ++ [e])) :
    s.Smooth es ∧ ((s.run es).step e).2 = .ok () ∧
      (e.isResume = true → (s.run es).session = none) := by
  induction es generalizing s with
  | nil =>
    obtain ⟨hfile, hresume, -⟩ := h
    exact ⟨trivial, hfile, hresume⟩
  | cons first rest ih =>
    obtain ⟨hfile, hresume, hrest⟩ := h
    obtain ⟨hsmooth, hlast⟩ := ih hrest
    exact ⟨⟨hfile, hresume, hsmooth⟩, hlast⟩

/-- A refusal of the very token that the store holds. -/
def Ends (s : SessionStore) (e : StoreEvent) : Prop :=
  ∃ token, e = .refused token ∧ s.token? = some token

/-- The ways in which an event changes the store. -/
inductive Effect (s : SessionStore) (e : StoreEvent) :
    SessionStore × Except TokenFileError Unit → Prop
  | unchanged (result : Except TokenFileError Unit) (hout : e ≠ .signOut) (hends : ¬ s.Ends e) :
    Effect s e (s, result)
  | begun (session : Session) : Effect s e (s.establish session)
  | forgot (hresume : e.isResume = true) : Effect s e s.forget
  | signedOut (hout : e = .signOut) : Effect s e s.signOut
  | expired (hends : s.Ends e) : Effect s e (s.expire, s.forget.2)

theorem effect_step (s : SessionStore) (e : StoreEvent) : s.Effect e (s.step e) := by
  cases e with
  | establish session => exact .begun session
  | signIn base transport credentials =>
    have h := signedIn_signIn base transport s credentials
    rw [step]
    cases hx : (signIn base transport s credentials).result with
    | mk s' x =>
      rw [hx] at h
      cases h with
      | failed e => exact .unchanged _ nofun (by rintro ⟨_, hr, -⟩; cases hr)
      | begun session => exact .begun session
  | resume base transport =>
    have h := resumed_resume base transport s
    rw [step]
    cases hx : (resume base transport s).result with
    | mk s' x =>
      rw [hx] at h
      cases h with
      | unreadable cause => exact .unchanged _ nofun (by rintro ⟨_, hr, -⟩; cases hr)
      | nothingSaved => exact .unchanged _ nofun (by rintro ⟨_, hr, -⟩; cases hr)
      | refused cause => exact .forgot rfl
      | begun session => exact .begun session
  | signOut => exact .signedOut rfl
  | refused token =>
    by_cases hheld : s.token? = some token
    · rw [step, invalidate_of_held hheld, if_pos hheld]
      exact .expired ⟨token, rfl, hheld⟩
    · rw [step, invalidate_of_not_held hheld, if_neg hheld]
      refine .unchanged _ nofun ?_
      rintro ⟨other, hother, hheld'⟩
      cases hother
      exact hheld hheld'

theorem file_step (s : SessionStore) (e : StoreEvent) : (s.step e).1.file = s.file := by
  have h := effect_step s e
  generalize s.step e = x at h
  cases h with
  | signedOut => exact file_signOut s
  | _ => rfl

theorem file_run (s : SessionStore) (es : List StoreEvent) : (s.run es).file = s.file := by
  induction es using List.reverseRecOn with
  | nil => rfl
  | append_singleton es e ih => rw [run_concat, file_step, ih]

/-- The status names the user of the session, if there is one. -/
def NamesUser (s : SessionStore) : Prop := s.status.userId? = s.session.map (·.user.id)

theorem namesUser_step (h : s.NamesUser) (e : StoreEvent) : (s.step e).1.NamesUser := by
  have heffect := effect_step s e
  generalize s.step e = x at heffect
  cases heffect with
  | unchanged => exact h
  | begun session => rfl
  | forgot => exact h
  | signedOut =>
    rw [NamesUser, status_signOut, session_signOut]
    rfl
  | expired => rfl

theorem namesUser_run (h : s.NamesUser) (es : List StoreEvent) : (s.run es).NamesUser := by
  induction es using List.reverseRecOn with
  | nil => exact h
  | append_singleton es e ih =>
    rw [run_concat]
    exact namesUser_step ih e

theorem NamesUser.session_of_expired (h : s.NamesUser) (hs : s.status = .expired) :
    s.session = none := by
  rw [NamesUser, hs] at h
  exact Option.map_eq_none_iff.1 h.symm

/-- The file holds the token of the session, if there is one. -/
def KeepsToken (s : SessionStore) : Prop :=
  ∀ session, s.session = some session → s.FileHolds session.token

theorem keepsToken_of_no_session (h : s.session = none) : s.KeepsToken := by
  intro session hs
  rw [h] at hs
  cases hs

theorem keepsToken_step (h : s.KeepsToken) (hfile : (s.step e).2 = .ok ())
    (hresume : e.isResume = true → s.session = none) : (s.step e).1.KeepsToken := by
  have heffect := effect_step s e
  generalize s.step e = x at heffect hfile
  cases heffect with
  | unchanged => exact h
  | begun session =>
    intro session' hs
    obtain rfl : session = session' := Option.some.inj hs
    exact fileHolds_establish hfile
  | forgot hr => exact keepsToken_of_no_session (hresume hr)
  | signedOut => exact keepsToken_of_no_session s.session_signOut
  | expired => exact keepsToken_of_no_session s.session_expire

theorem keepsToken_run (h : s.KeepsToken) (hsmooth : s.Smooth es) : (s.run es).KeepsToken := by
  induction es using List.reverseRecOn with
  | nil => exact h
  | append_singleton es e ih =>
    obtain ⟨hbefore, hfile, hresume⟩ := smooth_concat hsmooth
    rw [run_concat]
    exact keepsToken_step (ih hbefore) hfile hresume

/-- The files are as they were all the while, and there was no session yet. -/
def Untouched (s : SessionStore) (es : List StoreEvent) : Prop :=
  ∀ earlier, earlier <+: es → (s.run earlier).files = s.files ∧ (s.run earlier).session = none

theorem untouched_nil (h : s.session = none) : s.Untouched [] := by
  intro earlier hpre
  rw [List.prefix_nil.1 hpre]
  exact ⟨rfl, h⟩

theorem Untouched.concat (h : s.Untouched es) (hstep : ((s.run es).step e).1 = s.run es) :
    s.Untouched (es ++ [e]) := by
  intro earlier hpre
  rcases List.prefix_concat_iff.1 hpre with rfl | hpre
  · rw [run_concat, hstep]
    exact h es List.prefix_rfl
  · exact h earlier hpre

/-- Without a session there is no token file, unless nothing has come to it yet. -/
theorem fileAbsent_or_untouched (h : s.session = none) (hsmooth : s.Smooth es)
    (hnone : (s.run es).session = none) : (s.run es).FileAbsent ∨ s.Untouched es := by
  induction es using List.reverseRecOn with
  | nil => exact .inr (untouched_nil h)
  | append_singleton es e ih =>
    obtain ⟨hbefore, hfile, hresume⟩ := smooth_concat hsmooth
    rw [run_concat] at hnone ⊢
    have heffect := effect_step (s.run es) e
    generalize hx : (s.run es).step e = x at heffect hfile hnone
    cases heffect with
    | unchanged => exact (ih hbefore hnone).imp_right fun hold => hold.concat (by rw [hx])
    | begun session => cases hnone
    | forgot => exact .inl (fileAbsent_forget hfile)
    | signedOut => exact .inl (fileAbsent_signOut hfile)
    | expired => exact .inl (fileAbsent_expire hfile)

/-- The last session was ended by a refusal, and nobody signed out or began one since. -/
def EndedByRefusal (s : SessionStore) (es : List StoreEvent) : Prop :=
  ∃ before token after, es = before ++ .refused token :: after ∧
    (s.run before).token? = some token ∧ .signOut ∉ after ∧
    ∀ later, later <+: after → (s.run (before ++ .refused token :: later)).session = none

theorem endedByRefusal_of_ends (h : (s.run es).Ends e) : s.EndedByRefusal (es ++ [e]) := by
  obtain ⟨token, rfl, hheld⟩ := h
  refine ⟨es, token, [], rfl, hheld, List.not_mem_nil, fun later hpre => ?_⟩
  rw [List.prefix_nil.1 hpre, run_concat, step, invalidate_of_held hheld, session_expire]

theorem EndedByRefusal.concat (h : s.EndedByRefusal es) (hout : e ≠ .signOut)
    (hnone : (s.run (es ++ [e])).session = none) : s.EndedByRefusal (es ++ [e]) := by
  obtain ⟨before, token, after, rfl, hheld, hnot, hstill⟩ := h
  refine ⟨before, token, after ++ [e], by simp, hheld, ?_, fun later hpre => ?_⟩
  · simpa [hnot] using hout.symm
  · rcases List.prefix_concat_iff.1 hpre with rfl | hpre
    · simpa using hnone
    · exact hstill later hpre

theorem EndedByRefusal.of_concat (h : s.EndedByRefusal (es ++ [e])) :
    (s.run es).Ends e ∨ s.EndedByRefusal es ∧ e ≠ .signOut ∧
      (s.run (es ++ [e])).session = none := by
  obtain ⟨before, token, after, hes, hheld, hnot, hstill⟩ := h
  -- Either the last event is the refusal itself, or it is the last one after it.
  rcases after.eq_nil_or_concat with rfl | ⟨between, last, rfl⟩
  · obtain ⟨rfl, hlast⟩ := List.append_inj' hes rfl
    exact .inl ⟨token, List.singleton_inj.1 hlast, hheld⟩
  · simp only [List.concat_eq_append] at hes hnot hstill
    have hwhole : es ++ [e] = (before ++ .refused token :: between) ++ [last] := by simpa using hes
    obtain ⟨rfl, hlast⟩ := List.append_inj' hwhole rfl
    obtain rfl := List.singleton_inj.1 hlast
    have hout : .signOut ∉ between ∧ e ≠ .signOut := by
      simpa [eq_comm] using hnot
    refine .inr ⟨⟨before, token, between, rfl, hheld, hout.1, fun later hpre => ?_⟩, hout.2, ?_⟩
    · exact hstill later (hpre.trans (List.prefix_append _ _))
    · simpa using hstill (between ++ [e]) List.prefix_rfl

/-- What does not end the session leaves an expired store expired, unless it is a sign-out or
begins a session; and it makes no store expired. -/
theorem status_step_eq_expired_iff (h : s.NamesUser) (hends : ¬ s.Ends e) :
    (s.step e).1.status = .expired ↔
      s.status = .expired ∧ e ≠ .signOut ∧ (s.step e).1.session = none := by
  have heffect := effect_step s e
  generalize s.step e = x at heffect
  cases heffect with
  | unchanged result hout =>
    exact ⟨fun hs => ⟨hs, hout, h.session_of_expired hs⟩, And.left⟩
  | begun session => exact iff_of_false nofun (fun hs => nomatch hs.2.2)
  | forgot hr =>
    have hout : e ≠ .signOut := by
      rintro rfl
      cases hr
    exact ⟨fun hs => ⟨hs, hout, h.session_of_expired hs⟩, And.left⟩
  | signedOut hout =>
    rw [status_signOut]
    exact iff_of_false nofun (fun hs => hs.2.1 hout)
  | expired h => exact absurd h hends

theorem expired_iff_endedByRefusal (h : s.NamesUser) (hs : s.status ≠ .expired)
    (es : List StoreEvent) : (s.run es).status = .expired ↔ s.EndedByRefusal es := by
  induction es using List.reverseRecOn with
  | nil =>
    refine iff_of_false hs ?_
    rintro ⟨before, token, after, hes, -⟩
    simp at hes
  | append_singleton es e ih =>
    by_cases hends : (s.run es).Ends e
    · refine iff_of_true ?_ (endedByRefusal_of_ends hends)
      obtain ⟨token, rfl, hheld⟩ := hends
      rw [run_concat, step, invalidate_of_held hheld, status_expire]
    · rw [run_concat, status_step_eq_expired_iff (namesUser_run h es) hends, ih, ← run_concat]
      constructor
      · rintro ⟨hended, hout, hnone⟩
        exact hended.concat hout hnone
      · exact fun hended => hended.of_concat.resolve_left hends

/-- Session, status and token file agree after any run from a new store in which the file does not
fail and nothing is resumed over a session. -/
theorem session_status_file_agree (file : TokenFile) (files : Files) (es : List StoreEvent)
    (hsmooth : (start file files).Smooth es) :
    let s := (start file files).run es
    s.file = file ∧ s.status.userId? = s.session.map (·.user.id) ∧
    (∀ session, s.session = some session → s.token? = some session.token ∧
      s.FileHolds session.token ∧ s.saved? = .ok (some session.token)) ∧
    (s.session = none → (s.FileAbsent ∨ (start file files).Untouched es) ∧
      (∀ c, s.permits c = false) ∧
      ∀ resource action scope, hasPermission s.session resource action scope = false) ∧
    (s.status = .expired ↔ (start file files).EndedByRefusal es) := by
  intro s
  have hkept : s.KeepsToken := keepsToken_run (keepsToken_of_no_session rfl) hsmooth
  have hnamed : (start file files).NamesUser := rfl
  refine ⟨file_run _ es, namesUser_run hnamed es, ?_, ?_,
    expired_iff_endedByRefusal hnamed SignInStatus.noConfusion es⟩
  · intro session hs
    exact ⟨by rw [token?, hs]; rfl, hkept session hs, (hkept session hs).saved?⟩
  · intro hnone
    refine ⟨fileAbsent_or_untouched rfl hsmooth hnone, not_permits_of_no_session hnone, ?_⟩
    intro resource action scope
    exact not_permits_of_no_session hnone ⟨resource, action, scope⟩

/-- The second session is ended by the refusal of its token, not by the late one of the first, and
takes its token file with it. -/
theorem late_refusal_then_own :
    let earlier : Session := ⟨⟨"abc", by decide, by decide⟩, default⟩
    let later : Session := ⟨⟨"xyz", by decide, by decide⟩, default⟩
    let fresh := start ⟨"token"⟩ Files.empty
    let es : List StoreEvent :=
      [.establish earlier, .establish later, .refused earlier.token, .refused later.token]
    fresh.Smooth es ∧ (fresh.run es).session = none ∧ (fresh.run es).FileAbsent ∧
      fresh.EndedByRefusal es := by
  intro earlier later fresh es
  have hsmooth : fresh.Smooth es := by
    refine ⟨eq_ok_of_isOk ?_, nofun, eq_ok_of_isOk ?_, nofun, eq_ok_of_isOk ?_, nofun,
      eq_ok_of_isOk ?_, nofun, trivial⟩ <;> decide +kernel
  have hnone : (fresh.run es).session = none := by decide +kernel
  obtain ⟨-, -, -, habsent, hexpired⟩ := session_status_file_agree ⟨"token"⟩ Files.empty es hsmooth
  refine ⟨hsmooth, hnone, (habsent hnone).1.resolve_right ?_, hexpired.1 ?_⟩
  · intro huntouched
    have hsession := (huntouched [.establish earlier] ⟨_, rfl⟩).2
    rw [run, List.foldl_cons, List.foldl_nil, step, session_establish] at hsession
    cases hsession
  · decide +kernel

end SessionStore

end OpsConsole
