import OpsConsole.Proofs.Backend.Performance
import OpsConsole.Proofs.SignIn.Entrance
import OpsConsole.Proofs.SignIn.Saving

/-!
# Resumptions that are refused

When the backend names no user for the saved token, whatever the cause, the token file is removed.
That is all: a session that is held at that time is held still, with all that it permits, even
where the backend refused its very token. So after a refused resumption the store is signed out
exactly when it was before.
-/

namespace OpsConsole

namespace SessionStore

variable {base : Url} {transport : Transport} {s : SessionStore} {token : BearerToken}
  {cause : ActionError}

/-- No session, hence no token, and nothing is permitted. -/
structure SignedOut (s : SessionStore) : Prop where
  session : s.session = none
  token : s.token? = none
  permits : ∀ c, s.permits c = false

theorem signedOut_iff : s.SignedOut ↔ s.session = none :=
  ⟨SignedOut.session, fun h => ⟨h, token?_eq_none_iff.2 h, not_permits_of_no_session h⟩⟩

/-- A refused resumption removes the token file and leaves session and status as they are. -/
theorem refused_resumption_keeps_session (hsaved : s.saved? = .ok (some token))
    (hrefused : (Backend.currentUser base transport token).result = .error cause)
    (hremoved : s.forget.2 = .ok ()) :
    let x := (resume base transport s).result
    x.2 = .refused cause (.ok ()) ∧ x.1.FileAbsent ∧ x.1.saved? = .ok none ∧
      x.1.session = s.session ∧ x.1.status = s.status ∧ (∀ c, x.1.permits c = s.permits c) ∧
      (x.1.SignedOut ↔ s.SignedOut) := by
  intro x
  have hx : x = (s.forget.1, .refused cause s.forget.2) := resume_of_refused hsaved hrefused
  have habsent : s.forget.1.FileAbsent := fileAbsent_forget hremoved
  rw [hx, hremoved]
  exact ⟨rfl, habsent, habsent.saved?, rfl, rfl, fun c => rfl,
    by rw [signedOut_iff, signedOut_iff, session_forget]⟩

/-- A token is left from an earlier run, and the backend breaks down: the store stays signed out,
and the token is gone. -/
theorem breakdown_at_start :
    let base : Url := ⟨"http", some ⟨"", "", .name "localhost", none⟩, .rooted [""], none, none,
      false⟩
    let token : BearerToken := ⟨"abc", by decide, by decide⟩
    let earlier := ((start ⟨"token"⟩ Files.empty).establish ⟨token, default⟩).1
    let s := start ⟨"token"⟩ earlier.files
    let x := (resume base (.plain fun _ _ => some ⟨500, none, none⟩) s).result.1
    s.saved? = .ok (some token) ∧ s.forget.2 = .ok () ∧ x.SignedOut ∧ x.FileAbsent := by
  intro base token earlier s x
  have hsave : ((start ⟨"token"⟩ Files.empty).establish ⟨token, default⟩).2 = .ok () :=
    eq_ok_of_isOk (by decide +kernel)
  have hsaved : s.saved? = .ok (some token) := (fileHolds_establish hsave).saved?
  have hremoved : s.forget.2 = .ok () := eq_ok_of_isOk (by decide +kernel)
  have hrefused :
      (Backend.currentUser base (.plain fun _ _ => some ⟨500, none, none⟩) token).result =
        Reply.user ⟨500, none, none⟩ := result_currentUser rfl (by decide +kernel) rfl rfl
  obtain ⟨-, habsent, -, -, -, -, hout⟩ :=
    refused_resumption_keeps_session hsaved hrefused hremoved
  exact ⟨hsaved, hremoved, hout.2 (signedOut_iff.2 rfl), habsent⟩

/-- The backend refuses the token of an administrator who resumes over the session. The token file
is gone, but the session is held and permits what it did; any other request with this reply would
have ended it. -/
theorem own_refusal_keeps_administrator :
    let base : Url := ⟨"http", some ⟨"", "", .name "localhost", none⟩, .rooted [""], none, none,
      false⟩
    let token : BearerToken := ⟨"abc", by decide, by decide⟩
    let user : User := { (default : User) with id := "u1", roles := TextSet.ofList ["admin"] }
    let refusing : Transport := .plain fun _ _ => some ⟨401, none, none⟩
    let s := ((start ⟨"token"⟩ Files.empty).establish ⟨token, user⟩).1
    let x := (resume base refusing s).result.1
    s.saved? = .ok (some token) ∧
      (Backend.currentUser base refusing token).result = .error .unauthorized ∧
      s.forget.2 = .ok () ∧ x.FileAbsent ∧ x.token? = some token ∧ ¬ x.SignedOut ∧
      x.permits Action.listProcesses.claim = true ∧
      (Backend.perform base refusing s .listProcesses).result.1.SignedOut := by
  intro base token user refusing s x
  have hsave : ((start ⟨"token"⟩ Files.empty).establish ⟨token, user⟩).2 = .ok () :=
    eq_ok_of_isOk (by decide +kernel)
  have hsaved : s.saved? = .ok (some token) := (fileHolds_establish hsave).saved?
  have hremoved : s.forget.2 = .ok () := eq_ok_of_isOk (by decide +kernel)
  have hrefused : (Backend.currentUser base refusing token).result = Reply.user ⟨401, none, none⟩ :=
    result_currentUser rfl (by decide +kernel) rfl rfl
  have hx : x = s.forget.1 := by
    change (resume base refusing s).result.1 = _
    rw [resume_of_refused hsaved hrefused]
  have habsent : s.forget.1.FileAbsent := fileAbsent_forget hremoved
  have hsession : x.session = some ⟨token, user⟩ := by
    rw [hx, session_forget]
    exact session_establish _ _
  refine ⟨hsaved, hrefused, hremoved, ?_, ?_, ?_, ?_, ?_⟩
  · rw [hx]
    exact habsent
  · rw [token?, hsession]
    rfl
  · intro hout
    rw [hout.session] at hsession
    cases hsession
  · rw [permits, hsession]
    decide +kernel
  · exact signedOut_iff.2 (by decide +kernel)

end SessionStore

end OpsConsole
