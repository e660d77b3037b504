import OpsConsole.Proofs.SignIn.Expiry
import OpsConsole.SignIn.Admission

/-!
# Ways in and out

A sign-in or a resumption that succeeds establishes its session, and does nothing else to the
store. One that fails leaves the session, the status and the announcements as they are; at most
the files change. Signing out ends the session.
-/

namespace OpsConsole

namespace SessionStore

variable {base : Url} {transport : Transport} {s : SessionStore} {token : BearerToken} {user : User}
  {cause : ActionError}

@[simp] theorem status_establish (s : SessionStore) (session : Session) :
    (s.establish session).1.status = .signedIn session.user.id := rfl

@[simp] theorem status_signOut (s : SessionStore) : s.signOut.1.status = .signedOut := by
  rw [signOut]
  split
  · rfl
  · next h => exact Decidable.not_not.1 fun hne => h (.inr hne)

/-- What a sign-in comes to. -/
inductive SignedIn (s : SessionStore) : SessionStore × Except AuthError Admission → Prop
  | failed (e : AuthError) : SignedIn s (s, .error e)
  | begun (session : Session) :
    SignedIn s ((s.establish session).1, .ok ⟨session, (s.establish session).2⟩)

theorem signedIn_signIn (base : Url) (transport : Transport) (s : SessionStore) (c : Credentials) :
    s.SignedIn (signIn base transport s c).result := by
  rw [signIn, Exchange.map]
  dsimp only
  split
  · exact .failed _
  · split
    · exact .failed _
    · exact .begun _

theorem signIn_of_taken {c : Credentials} {reply : SignInReply} {session : Session}
    (htaken : (Backend.login base transport c).result = .ok reply)
    (hsession : reply.session? = some session) :
    (signIn base transport s c).result =
      ((s.establish session).1, .ok ⟨session, (s.establish session).2⟩) := by
  rw [signIn]
  simp only [Exchange.map, htaken, hsession, commence]

/-- What a resumption comes to. -/
inductive Resumed (s : SessionStore) : SessionStore × Resumption → Prop
  | unreadable (cause : TokenFileError) : Resumed s (s, .unreadable cause)
  | nothingSaved : Resumed s (s, .nothingSaved)
  | refused (cause : ActionError) : Resumed s (s.forget.1, .refused cause s.forget.2)
  | begun (session : Session) :
    Resumed s ((s.establish session).1, .resumed ⟨session, (s.establish session).2⟩)

theorem resumed_resume (base : Url) (transport : Transport) (s : SessionStore) :
    s.Resumed (resume base transport s).result := by
  rw [resume]
  split
  · exact .unreadable _
  · exact .nothingSaved
  · rw [Exchange.map]
    dsimp only
    split
    · exact .begun _
    · exact .refused _

theorem result_currentUser {address : Url} {reply : Reply}
    (haddress : Backend.endpoint? base ["auth", "me"] = some address)
    (hsendable : Request.isSendable ⟨.get, address, some token, none⟩ = true)
    (hreply : transport.backend [] ⟨.get, address, some token, none⟩ = some reply)
    (hdirect : reply.isRedirect = false) :
    (Backend.currentUser base transport token).result = reply.user := by
  rw [Backend.currentUser, haddress]
  simp only [Exchange.map, Transport.result_of_reply hsendable hreply hdirect]

theorem resume_of_named (hsaved : s.saved? = .ok (some token))
    (hnamed : (Backend.currentUser base transport token).result = .ok user) :
    (resume base transport s).result = ((s.establish ⟨token, user⟩).1,
      .resumed ⟨⟨token, user⟩, (s.establish ⟨token, user⟩).2⟩) := by
  rw [resume, hsaved]
  simp only [Exchange.map, hnamed, commence]

theorem resume_of_refused (hsaved : s.saved? = .ok (some token))
    (hrefused : (Backend.currentUser base transport token).result = .error cause) :
    (resume base transport s).result = (s.forget.1, .refused cause s.forget.2) := by
  rw [resume, hsaved]
  simp only [Exchange.map, hrefused]

end SessionStore

end OpsConsole
