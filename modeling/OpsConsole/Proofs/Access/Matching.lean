import OpsConsole.Access.Session

/-!
# Permissions and the claims they grant

A permission is held as a text. Cut at its first two colons it has three parts, or it has fewer and
grants nothing. A claim is looked for as one text, in which its own parts are joined by colons; as
long as neither its resource nor its action holds a colon, no other three parts join to that text.
So a user who is no administrator satisfies a claim exactly when some permission has the parts of
the claim, or these with the wildcard for a scope.
-/

namespace OpsConsole

namespace Claim

variable {cs before after : List Char}

theorem cut_append_colon (h : ':' ∉ before) (after : List Char) :
    cut (before ++ ':' :: after) = (before, some after) := by
  induction before with
  | nil => rfl
  | cons c before ih =>
    obtain ⟨hc, hbefore⟩ := not_or.1 (mt List.mem_cons.2 h)
    rw [List.cons_append, cut, if_neg (Ne.symm hc), ih hbefore]

theorem eq_append_colon_of_cut (h : cut cs = (before, some after)) :
    cs = before ++ ':' :: after ∧ ':' ∉ before := by
  induction cs generalizing before with
  | nil => cases h
  | cons c cs ih =>
    rw [cut] at h
    split at h
    · next hc =>
      cases h
      exact ⟨by rw [hc, List.nil_append], List.not_mem_nil⟩
    · next hc =>
      cases hcut : cut cs with
      | mk before' after' =>
        rw [hcut] at h
        cases h
        obtain ⟨hcs, hbefore⟩ := ih hcut
        exact ⟨by rw [hcs, List.cons_append],
          List.not_mem_cons_of_ne_of_not_mem (Ne.symm hc) hbefore⟩

/-- The parts of a permission before, between and after its first two colons. -/
def parts? (permission : String) : Option (String × String × String) :=
  match cut permission.toList with
  | (_, none) => none
  | (resource, some rest) =>
    match cut rest with
    | (_, none) => none
    | (action, some scope) =>
      some (String.ofList resource, String.ofList action, String.ofList scope)

theorem parts?_eq_some_iff {permission resource action scope : String} :
    parts? permission = some (resource, action, scope) ↔
      permission = resource ++ ":" ++ action ++ ":" ++ scope ∧
        ':' ∉ resource.toList ∧ ':' ∉ action.toList := by
  constructor
  · intro h
    rw [parts?] at h
    split at h
    · cases h
    next first rest hfirst =>
    split at h
    · cases h
    next second third hsecond =>
    cases h
    obtain ⟨hpermission, hresource⟩ := eq_append_colon_of_cut hfirst
    obtain ⟨hrest, haction⟩ := eq_append_colon_of_cut hsecond
    refine ⟨String.toList_inj.1 ?_, by simpa using hresource, by simpa using haction⟩
    rw [hpermission, hrest]
    simp
  · rintro ⟨rfl, hresource, haction⟩
    have hchars : (resource ++ ":" ++ action ++ ":" ++ scope).toList =
        resource.toList ++ ':' :: (action.toList ++ ':' :: scope.toList) := by
      simp
    rw [parts?, hchars, cut_append_colon hresource]
    dsimp only
    rw [cut_append_colon haction]
    simp

end Claim

namespace User

variable {u : User} {c : Claim}

theorem satisfies_of_admin (h : adminRole ∈ u.roles) (c : Claim) : u.satisfies c = true := by
  simp [satisfies, isAdmin, h]

theorem satisfies_iff_of_not_admin (h : adminRole ∉ u.roles) :
    u.satisfies c = true ↔
      c.text ∈ u.permissions ∨ (c.withScope Claim.wildcard).text ∈ u.permissions := by
  simp [satisfies, isAdmin, h]

/-- Some permission of the user has these parts. -/
def Holds (u : User) (resource action scope : String) : Prop :=
  ∃ p, p ∈ u.permissions ∧ Claim.parts? p = some (resource, action, scope)

theorem holds_iff {resource action scope : String} (hresource : ':' ∉ resource.toList)
    (haction : ':' ∉ action.toList) :
    u.Holds resource action scope ↔ (Claim.mk resource action scope).text ∈ u.permissions := by
  constructor
  · rintro ⟨p, hp, hparts⟩
    rwa [Claim.text, ← (Claim.parts?_eq_some_iff.1 hparts).1]
  · intro h
    exact ⟨_, h, Claim.parts?_eq_some_iff.2 ⟨rfl, hresource, haction⟩⟩

end User

/-- Permissions match exactly. A user who is no administrator satisfies a claim, of which neither
the resource nor the action holds a colon, exactly when some permission has the parts of the claim,
or these with the wildcard for a scope; so a claim on every scope needs a permission on every scope.
An administrator satisfies every claim, and without a session none is satisfied. -/
theorem satisfies_iff_holds :
    (∀ (s : Session) (c : Claim), User.adminRole ∉ s.user.roles →
      ':' ∉ c.resource.toList → ':' ∉ c.action.toList →
      (satisfies (some s) c = true ↔ s.user.Holds c.resource c.action c.scope ∨
        s.user.Holds c.resource c.action "*") ∧
      (hasPermission (some s) c.resource c.action c.scope = true ↔
        s.user.Holds c.resource c.action c.scope ∨ s.user.Holds c.resource c.action "*") ∧
      (c.scope = "*" → (satisfies (some s) c = true ↔ s.user.Holds c.resource c.action "*"))) ∧
    (∀ (s : Session) (c : Claim), User.adminRole ∈ s.user.roles →
      satisfies (some s) c = true ∧
        hasPermission (some s) c.resource c.action c.scope = true) ∧
    ∀ c : Claim, satisfies none c = false ∧
      hasPermission none c.resource c.action c.scope = false := by
  refine ⟨?_, ?_, fun c => ⟨rfl, rfl⟩⟩
  · intro s c hadmin hresource haction
    have hmatch : satisfies (some s) c = true ↔ s.user.Holds c.resource c.action c.scope ∨
        s.user.Holds c.resource c.action "*" := by
      rw [User.holds_iff hresource haction, User.holds_iff hresource haction]
      exact User.satisfies_iff_of_not_admin hadmin
    refine ⟨hmatch, hmatch, fun hscope => ?_⟩
    rw [hmatch, hscope, or_self]
  · intro s c hadmin
    have hall := User.satisfies_of_admin hadmin
    exact ⟨hall c, hall _⟩

/-- A permission on one scope, which holds a colon itself, grants the claim on this scope only, and
a permission without a scope grants nothing. -/
theorem scoped_permission_of_operator :
    let operator : User := { (default : User) with
      permissions := .ofList ["process:stop:prod:eu", "process:start"] }
    let s : Session := ⟨⟨"abc", by decide, by decide⟩, operator⟩
    satisfies (some s) ⟨"process", "stop", "prod:eu"⟩ = true ∧
      operator.Holds "process" "stop" "prod:eu" ∧ ¬ operator.Holds "process" "stop" "prod" ∧
      ¬ operator.Holds "process" "start" "*" := by
  intro operator s
  have hmatch := satisfies_iff_holds.1 s
  have hadmin : User.adminRole ∉ s.user.roles := by decide
  obtain ⟨hscoped, -, -⟩ := hmatch ⟨"process", "stop", "prod:eu"⟩ hadmin (by decide) (by decide)
  obtain ⟨hshort, -, -⟩ := hmatch ⟨"process", "stop", "prod"⟩ hadmin (by decide) (by decide)
  obtain ⟨-, -, hstart⟩ := hmatch ⟨"process", "start", "*"⟩ hadmin (by decide) (by decide)
  have hgranted : satisfies (some s) ⟨"process", "stop", "prod:eu"⟩ = true := by decide +kernel
  have hrefused : ¬ satisfies (some s) ⟨"process", "stop", "prod"⟩ = true := by decide +kernel
  have hunscoped : ¬ satisfies (some s) ⟨"process", "start", "*"⟩ = true := by decide +kernel
  obtain ⟨hexact, hwild⟩ := not_or.1 (mt hshort.2 hrefused)
  exact ⟨hgranted, (hscoped.1 hgranted).resolve_right hwild, hexact, mt (hstart rfl).2 hunscoped⟩

end OpsConsole
