import OpsConsole.Proofs.Files.Replacement
import OpsConsole.Proofs.SignIn.Expiry

/-!
# Tokens that are saved

A token file that a token was saved to holds the text of this token and nothing else, so the token
is loaded from it again. A session that begins is saved so. When a store removes its token file,
there is none any more.
-/

namespace OpsConsole

open Text

namespace TokenFile

variable {t : TokenFile} {faults : Files.Faults} {f : Files} {token : BearerToken}

theorem performAll_of_save (h : (t.save faults f token).2 = .ok ()) :
    f.performAll faults (t.saving token) = ((t.save faults f token).1, none) := by
  rw [save] at h ⊢
  rcases hp : f.performAll faults (t.saving token) with ⟨f', _ | e⟩
  · rfl
  · rw [hp] at h
    cases h

/-- The text is written to the sibling, kept when this is made private, and renamed with it. -/
theorem read_save (h : (t.save faults f token).2 = .ok ()) :
    (t.save faults f token).1.read t.path = .ok (Utf8.encode token.text) := by
  obtain ⟨ready, -, hsteps⟩ := Files.performAll_append_iff.1 (performAll_of_save h)
  obtain ⟨-, written, hwrite, hsteps⟩ := Files.performAll_cons_iff.1 hsteps
  obtain ⟨-, restricted, hrestrict, hsteps⟩ := Files.performAll_cons_iff.1 hsteps
  obtain ⟨-, renamed, hrename, hend⟩ := Files.performAll_cons_iff.1 hsteps
  have hwritten := Files.read_of_write (Files.settled_eq_none_iff.1 hwrite)
  have hrestricted := Files.read_of_setPrivate (Files.settled_eq_none_iff.1 hrestrict) hwritten
  have hrenamed := Files.read_of_rename (Files.settled_eq_none_iff.1 hrename) hrestricted
  rwa [← congrArg Prod.fst hend]

theorem load_of_read (h : f.read t.path = .ok (Utf8.encode token.text)) :
    t.load f = .ok (some token) := by
  rw [load, h]
  simp only [Utf8.strict?_encode, BearerToken.ofText?_text]

end TokenFile

namespace SessionStore

variable {s : SessionStore}

/-- The token file holds the text of a token and nothing else. -/
def FileHolds (s : SessionStore) (token : BearerToken) : Prop :=
  s.files.read s.file.path = .ok (Utf8.encode token.text)

/-- There is no token file. -/
def FileAbsent (s : SessionStore) : Prop := s.files.read s.file.path = .error .notFound

theorem FileHolds.saved? {token : BearerToken} (h : s.FileHolds token) :
    s.saved? = .ok (some token) :=
  TokenFile.load_of_read h

theorem FileAbsent.saved? (h : s.FileAbsent) : s.saved? = .ok none :=
  TokenFile.load_of_notFound h

theorem fileHolds_establish {session : Session} (h : (s.establish session).2 = .ok ()) :
    (s.establish session).1.FileHolds session.token :=
  TokenFile.read_save h

theorem fileAbsent_forget (h : s.forget.2 = .ok ()) : s.forget.1.FileAbsent :=
  TokenFile.read_clear h

theorem fileAbsent_expire (h : s.forget.2 = .ok ()) : s.expire.FileAbsent :=
  fileAbsent_forget h

theorem result_signOut (s : SessionStore) : s.signOut.2 = s.forget.2 := by
  rw [signOut]
  split <;> rfl

theorem file_signOut (s : SessionStore) : s.signOut.1.file = s.file := by
  rw [signOut]
  split <;> rfl

theorem files_signOut (s : SessionStore) : s.signOut.1.files = s.forget.1.files := by
  rw [signOut]
  split <;> rfl

theorem fileAbsent_signOut (h : s.signOut.2 = .ok ()) : s.signOut.1.FileAbsent := by
  rw [result_signOut] at h
  rw [FileAbsent, file_signOut, files_signOut]
  exact fileAbsent_forget h

end SessionStore

end OpsConsole
