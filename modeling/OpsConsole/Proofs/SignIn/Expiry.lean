import OpsConsole.Backend.Gateway
import OpsConsole.Proofs.Files.Removal

/-!
# Sessions that expire

A store settles a request by expiring when the backend refused the very token that it holds, and
else not at all. A store that has expired holds no session, says so, and has removed its token
file, of which nothing can be loaded then. What holds no session permits nothing.
-/

namespace OpsConsole

namespace TokenFile

theorem clear_eq (t : TokenFile) (f : Files) :
    t.clear Files.noFaults f =
      match f.remove t.path with
      | .ok f' => (f', .ok ())
      | .error .notFound => (f, .ok ())
      | .error e => (f, .error (t.error e)) := by
  rw [clear, Files.performAll_singleton, Files.perform]
  cases f.remove t.path with
  | ok f' => rfl
  | error e => cases e <;> rfl

theorem load_of_notFound {t : TokenFile} {f : Files} (h : f.read t.path = .error .notFound) :
    t.load f = .ok none := by
  rw [load, h]

theorem read_clear {t : TokenFile} {f : Files} (h : (t.clear Files.noFaults f).2 = .ok ()) :
    (t.clear Files.noFaults f).1.read t.path = .error .notFound := by
  rw [clear_eq] at h ⊢
  cases hr : f.remove t.path with
  | ok f' => exact Files.read_of_remove hr
  | error e =>
    cases e with
    | notFound => exact Files.read_of_remove_notFound hr
    | _ =>
      rw [hr] at h
      cases h

theorem load_clear {t : TokenFile} {f : Files} (h : (t.clear Files.noFaults f).2 = .ok ()) :
    t.load (t.clear Files.noFaults f).1 = .ok none :=
  load_of_notFound (read_clear h)

end TokenFile

namespace SessionStore

variable {s : SessionStore}

theorem token?_eq_none_iff : s.token? = none ↔ s.session = none := by
  rw [token?, Option.map_eq_none_iff]

@[simp] theorem session_forget (s : SessionStore) : s.forget.1.session = s.session := rfl

@[simp] theorem status_forget (s : SessionStore) : s.forget.1.status = s.status := rfl

@[simp] theorem announced_forget (s : SessionStore) : s.forget.1.announced = s.announced := rfl

@[simp] theorem session_establish (s : SessionStore) (session : Session) :
    (s.establish session).1.session = some session := rfl

@[simp] theorem session_signOut (s : SessionStore) : s.signOut.1.session = none := by
  rw [signOut]
  split <;> rfl

/-- The store once its session has expired. -/
def expire (s : SessionStore) : SessionStore :=
  ({ s with session := none }.forget.1).announce .expired

@[simp] theorem session_expire (s : SessionStore) : s.expire.session = none := rfl

@[simp] theorem token?_expire (s : SessionStore) : s.expire.token? = none := rfl

@[simp] theorem status_expire (s : SessionStore) : s.expire.status = .expired := rfl

@[simp] theorem announced_expire (s : SessionStore) : s.expire.announced = s.announced + 1 := rfl

theorem saved?_expire (h : s.forget.2 = .ok ()) : s.expire.saved? = .ok none := by
  have hfile : s.expire.file = s.file := rfl
  have hfiles : s.expire.files = (s.file.clear Files.noFaults s.files).1 := rfl
  have hclear : (s.file.clear Files.noFaults s.files).2 = .ok () := h
  rw [saved?, hfile, hfiles]
  exact TokenFile.load_clear hclear

theorem invalidate_of_held {token : BearerToken} (h : s.token? = some token) :
    s.invalidate token = s.expire :=
  if_pos h

theorem invalidate_of_not_held {token : BearerToken} (h : s.token? ≠ some token) :
    s.invalidate token = s :=
  if_neg h

/-- A reply that refuses the very token that the store holds. -/
def Refused (s : SessionStore) (r : Request) (reply : Option Reply) : Prop :=
  ∃ answer token, reply = some answer ∧ answer.isUnauthorized = true ∧ r.token = some token ∧
    s.token? = some token

theorem settle_of_refused {r : Request} {reply : Option Reply} (h : s.Refused r reply) :
    s.settle r reply = s.expire := by
  obtain ⟨answer, token, rfl, hanswer, hr, hs⟩ := h
  simp only [settle, hr, if_pos hanswer]
  exact invalidate_of_held hs

theorem settle_of_not_refused {r : Request} {reply : Option Reply} (h : ¬ s.Refused r reply) :
    s.settle r reply = s := by
  cases reply with
  | none => rfl
  | some answer =>
    cases hr : r.token with
    | none => simp only [settle, hr]
    | some token =>
      simp only [settle, hr]
      by_cases hanswer : answer.isUnauthorized = true
      · have hs : s.token? ≠ some token := fun hs => h ⟨answer, token, rfl, hanswer, hr, hs⟩
        exact (if_pos hanswer).trans (invalidate_of_not_held hs)
      · exact if_neg hanswer

theorem settle_eq_or (s : SessionStore) (r : Request) (reply : Option Reply) :
    s.settle r reply = s ∨ s.settle r reply = s.expire ∧ s.Refused r reply := by
  by_cases h : s.Refused r reply
  · exact Or.inr ⟨settle_of_refused h, h⟩
  · exact Or.inl (settle_of_not_refused h)

theorem not_permits_of_no_session (h : s.session = none) (c : Claim) : s.permits c = false := by
  rw [permits, h]
  rfl

end SessionStore

end OpsConsole
