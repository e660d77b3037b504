import OpsConsole.Proofs.Access.Spelling

/-!
# Redirects come to an end

A visitor who is sent on asks for the next page with the same session, and may be sent on again.
How many redirects are to come can be read off the first decision: one from the landing page, for
the dashboard is shown to everyone who is signed in, and so two from a page that is not shown to a
session; without a session one, for the page to sign in is open. Each redirect takes one off, so
every visit ends after two at most.
-/

namespace OpsConsole

open Route

/-- Somebody who asks for a path. -/
structure Visitor where
  path : String
  session : Option Session
  deriving DecidableEq

namespace Visitor

def decision (v : Visitor) : Decision := visit v.path v.session

/-- The visitor at the page to which the decision sends, if it sends anywhere. -/
def next? (v : Visitor) : Option Visitor :=
  v.decision.target?.map fun path => { v with path }

/-- The redirects from one page to another, by the paths on the way. -/
inductive Follows : Visitor → List String → Visitor → Prop
  | stay (v : Visitor) : Follows v [] v
  | sent {v w u : Visitor} {trail : List String} (h : v.next? = some w) (rest : Follows w trail u) :
    Follows v (w.path :: trail) u

variable {v w u : Visitor} {trail : List String} {s : Session}

theorem next?_eq_none_iff : v.next? = none ↔ v.decision = .allow := by
  rw [next?, Option.map_eq_none_iff]
  cases v.decision <;> simp [Decision.target?]

theorem session_next? (h : v.next? = some w) : w.session = v.session := by
  obtain ⟨path, -, rfl⟩ := Option.map_eq_some_iff.1 h
  rfl

theorem target_next? (h : v.next? = some w) : v.decision.target? = some w.path := by
  obtain ⟨path, hpath, rfl⟩ := Option.map_eq_some_iff.1 h
  exact hpath

/-! ### The decisions at the pages that visitors are sent to -/

theorem visit_login (session : Option Session) : visit loginPath session = .allow := by
  have hlanding : ¬ Spells landingPath loginPath := by
    rw [← normalPath_eq_iff_spells (.inl rfl)]
    decide
  exact visit_of_open (r := opened loginPath "Login") (by decide) (spells_self _) rfl
    fun h => hlanding h.1

theorem visit_landing (s : Session) : visit landingPath (some s) = .toDashboard :=
  visit_eq_toDashboard_iff.2 ⟨spells_self _, rfl⟩

theorem visit_dashboard (s : Session) : visit dashboardPath (some s) = .allow :=
  (visit_signed_in (r := signedIn dashboardPath "Dashboard") (by decide) (spells_self _) rfl s).1
    (.inl rfl)

theorem visit_without_session (path : String) :
    visit path none = .allow ∨ visit path none = .toLogin := by
  by_cases hpage : ∃ r ∈ all, Spells r.path path
  · obtain ⟨r, hr, hspells⟩ := hpage
    cases hneeds : r.needsSession with
    | true => exact .inr (visit_signed_out hr hspells hneeds)
    | false => exact .inl (visit_of_open hr hspells hneeds (by simp))
  · exact .inl (visit_of_no_page fun r hr hspells => hpage ⟨r, hr, hspells⟩)

theorem visit_with_session_ne (path : String) (s : Session) : visit path (some s) ≠ .toLogin := by
  by_cases hlanding : Spells landingPath path
  · rw [visit_eq_toDashboard_iff.2 ⟨hlanding, rfl⟩]
    exact Decision.noConfusion
  rw [visit_of_not_landing fun h => hlanding h.1]
  cases find? path with
  | none => exact Decision.noConfusion
  | some r => cases hpermits : r.permits (some s) <;> simp [hpermits]

/-! ### The redirects to come -/

/-- How many redirects a visitor has to come. -/
def redirects (v : Visitor) : Nat :=
  match v.decision with
  | .allow => 0
  | .toLogin | .toDashboard => 1
  | .toLanding => 2

theorem redirects_le (v : Visitor) : v.redirects ≤ 2 := by
  rw [redirects]
  split <;> decide

theorem redirects_eq_zero_iff : v.redirects = 0 ↔ v.decision = .allow := by
  rw [redirects]
  cases v.decision <;> simp

theorem redirects_le_of_no_session (h : v.session = none) : v.redirects ≤ 1 := by
  have hdecision : v.decision = .allow ∨ v.decision = .toLogin := by
    rw [decision, h]
    exact visit_without_session v.path
  rcases hdecision with hd | hd <;> rw [redirects, hd]
  exact Nat.zero_le 1

theorem session_of_sent (h : v.decision = .toLanding ∨ v.decision = .toDashboard) :
    ∃ s, v.session = some s := by
  cases hs : v.session with
  | some s => exact ⟨s, rfl⟩
  | none =>
    rw [decision, hs] at h
    rcases visit_without_session v.path with hd | hd <;> rw [hd] at h <;> simp at h

theorem redirects_next? (h : v.next? = some w) : w.redirects + 1 = v.redirects := by
  have hsession := session_next? h
  have htarget := target_next? h
  cases hdecision : v.decision with
  | allow =>
    rw [hdecision] at htarget
    cases htarget
  | toLogin =>
    rw [hdecision] at htarget
    have hallowed : w.decision = .allow := by
      rw [decision, ← Option.some.inj htarget]
      exact visit_login w.session
    rw [redirects, redirects, hdecision, hallowed]
  | toDashboard =>
    rw [hdecision] at htarget
    obtain ⟨s, hs⟩ := session_of_sent (.inr hdecision)
    have hallowed : w.decision = .allow := by
      rw [decision, hsession, hs, ← Option.some.inj htarget]
      exact visit_dashboard s
    rw [redirects, redirects, hdecision, hallowed]
  | toLanding =>
    rw [hdecision] at htarget
    obtain ⟨s, hs⟩ := session_of_sent (.inl hdecision)
    have hsent : w.decision = .toDashboard := by
      rw [decision, hsession, hs, ← Option.some.inj htarget]
      exact visit_landing s
    rw [redirects, redirects, hdecision, hsent]

theorem Follows.redirects_eq (h : Follows v trail u) :
    trail.length + u.redirects = v.redirects := by
  induction h with
  | stay v => exact Nat.zero_add _
  | sent hnext _ ih => rw [List.length_cons, Nat.add_right_comm, ih, redirects_next? hnext]

theorem Follows.session_eq (h : Follows v trail u) : u.session = v.session := by
  induction h with
  | stay v => rfl
  | sent hnext _ ih => rw [ih, session_next? hnext]

theorem target_ne_login (path : String) (s : Session) :
    (visit path (some s)).target? ≠ some loginPath := by
  cases hdecision : visit path (some s) with
  | toLogin => exact absurd hdecision (visit_with_session_ne path s)
  | _ => decide

theorem Follows.login_not_mem (h : Follows v trail u) (hs : v.session = some s) :
    loginPath ∉ trail := by
  induction h with
  | stay v => exact List.not_mem_nil
  | @sent v w u trail hnext rest ih =>
    have htarget := target_next? hnext
    rw [decision, hs] at htarget
    have hne : loginPath ≠ w.path := fun hlogin => target_ne_login v.path s (hlogin ▸ htarget)
    exact List.not_mem_cons_of_ne_of_not_mem hne (ih ((session_next? hnext).trans hs))

theorem path_next?_of_no_session (h : v.next? = some w) (hs : v.session = none) :
    w.path = loginPath := by
  have htarget := target_next? h
  rw [decision, hs] at htarget
  rcases visit_without_session v.path with hd | hd <;> rw [hd] at htarget
  · cases htarget
  · exact (Option.some.inj htarget).symm

theorem Follows.path_of_no_session (h : Follows v trail u) (hs : v.session = none) :
    u.path = v.path ∨ u.path = loginPath := by
  induction h with
  | stay v => exact .inl rfl
  | sent hnext _ ih =>
    refine .inr ?_
    rcases ih ((session_next? hnext).trans hs) with hsame | hlogin
    · exact hsame.trans (path_next?_of_no_session hnext hs)
    · exact hlogin

/-- Following all redirects leads to a page that is shown. -/
theorem exists_follows (v : Visitor) : ∃ trail u, Follows v trail u ∧ u.decision = .allow := by
  induction hcount : v.redirects generalizing v with
  | zero => exact ⟨[], v, .stay v, redirects_eq_zero_iff.1 hcount⟩
  | succ n ih =>
    cases hnext : v.next? with
    | none =>
      rw [redirects_eq_zero_iff.2 (next?_eq_none_iff.1 hnext)] at hcount
      cases hcount
    | some w =>
      have hrest : w.redirects = n := by
        have hone := redirects_next? hnext
        omega
      obtain ⟨trail, u, hfollows, hallowed⟩ := ih w hrest
      exact ⟨w.path :: trail, u, .sent hnext hfollows, hallowed⟩

/-- Whatever the path and the session, following the redirects leads to a page that is shown, and
no way of following them is longer than two or changes the session. Without a session it is one at
most, and leads nowhere but to the page to sign in; with a session nothing leads there. -/
theorem redirects_end (v : Visitor) :
    (∃ trail u, Follows v trail u ∧ visit u.path u.session = .allow) ∧
    (∀ trail u, Follows v trail u →
      trail.length ≤ 2 ∧ u.session = v.session ∧
      (v.session = none →
        trail.length ≤ 1 ∧ (u.path = v.path ∨ u.path = loginPath)) ∧
      (v.session.isSome = true → loginPath ∉ trail)) ∧
    ∀ (path : String) (s : Session), (visit path (some s)).target? ≠ some loginPath := by
  refine ⟨exists_follows v, fun trail u h => ?_, target_ne_login⟩
  have hcount := h.redirects_eq
  refine ⟨?_, h.session_eq, fun hs => ⟨?_, h.path_of_no_session hs⟩, fun hs => ?_⟩
  · have hmost := v.redirects_le
    omega
  · have hmost := redirects_le_of_no_session hs
    omega
  · obtain ⟨s, hs⟩ := Option.isSome_iff_exists.1 hs
    exact h.login_not_mem hs

/-- A session that may not see the secrets is sent over the landing page to the dashboard. -/
theorem refused_session_at_dashboard :
    let s : Session := ⟨⟨"abc", by decide, by decide⟩, default⟩
    let v : Visitor := ⟨"/secrets/?all", some s⟩
    let trail := [landingPath, dashboardPath]
    Follows v trail ⟨dashboardPath, some s⟩ ∧ trail.length ≤ 2 ∧ loginPath ∉ trail := by
  intro s v trail
  have hfollows : Follows v trail ⟨dashboardPath, some s⟩ :=
    .sent (w := ⟨landingPath, some s⟩) (by decide +kernel)
      (.sent (w := ⟨dashboardPath, some s⟩) (by decide +kernel) (.stay _))
  obtain ⟨-, hbound, -⟩ := redirects_end v
  obtain ⟨hlength, -, -, hlogin⟩ := hbound trail _ hfollows
  exact ⟨hfollows, hlength, hlogin rfl⟩

end Visitor

end OpsConsole
