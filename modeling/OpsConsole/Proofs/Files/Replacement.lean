import OpsConsole.Proofs.Files.Ways

/-!
# Files that are replaced

What was written to a path is read there. Making a file private keeps what it holds, and what was
read at a path before it was renamed is read at its new one. Steps that were all performed were
performed one after another, each on what the one before it left.
-/

namespace OpsConsole

namespace Files

variable {f f' : Files} {loc : Location} {path : String} {bytes : List UInt8}

theorem exists_of_read (h : f.read path = .ok bytes) :
    ∃ loc ownerOnly, f.locate path = .ok loc ∧ f.entryAt? loc = some (.file bytes ownerOnly) ∧
      endsInSlash path = false := by
  obtain ⟨loc, hloc, h⟩ := exists_of_bind_ok h
  split at h
  · cases h
  · cases h
  · next bytes' ownerOnly hentry =>
    split at h
    · cases h
    · next hslash =>
      cases h
      exact ⟨loc, ownerOnly, hloc, hentry, Bool.eq_false_iff.2 hslash⟩

theorem read_of_file {ownerOnly : Bool} (hloc : f.locate path = .ok loc)
    (hentry : f.entryAt? loc = some (.file bytes ownerOnly)) (hslash : endsInSlash path = false) :
    f.read path = .ok bytes := by
  rw [read, hloc]
  simp only [bind, Except.bind, hentry, hslash]
  rfl

theorem read_put (hloc : f.locate path = .ok loc) (hfree : f.entryAt? loc ≠ some .directory)
    (hslash : endsInSlash path = false) (ownerOnly : Bool) :
    (f.put loc (.file bytes ownerOnly)).read path = .ok bytes :=
  read_of_file ((keepsWays_put hfree _).locate hloc)
    (entryAt?_put_self (ne_nil_of_not_directory hfree) _) hslash

theorem read_of_write (h : f.write path bytes = .ok f') : f'.read path = .ok bytes := by
  obtain ⟨loc, ownerOnly, hloc, -, hslash, hfree, rfl⟩ := exists_of_write h
  exact read_put hloc hfree hslash ownerOnly

theorem read_of_setPrivate {ownerOnly : Bool} (h : f.setPrivate path ownerOnly = .ok f')
    (hread : f.read path = .ok bytes) : f'.read path = .ok bytes := by
  obtain ⟨loc, before, hloc, hentry, hslash⟩ := exists_of_read hread
  rw [setPrivate, hloc] at h
  simp only [bind, Except.bind, hentry, hslash] at h
  cases h
  exact read_put hloc (by simp [hentry]) hslash _

theorem read_of_rename {source target : String} (h : f.rename source target = .ok f')
    (hread : f.read source = .ok bytes) : f'.read target = .ok bytes := by
  obtain ⟨old, new, bytes', ownerOnly, hold, hnew, -, hslash, hentry, hfree, rfl⟩ :=
    exists_of_rename h
  obtain ⟨old', ownerOnly', hold', hentry', -⟩ := exists_of_read hread
  obtain rfl : old = old' := Except.ok.inj (hold.symm.trans hold')
  obtain rfl : bytes' = bytes := by simp_all
  have hfile : f.entryAt? old ≠ some .directory := by simp [hentry]
  -- The target may be the source itself, which is gone by then.
  exact read_put ((keepsWays_erase hfile).locate hnew) (not_directory_erase hfile hfree) hslash _

theorem performAll_cons_iff {faults : Faults} {s : FileStep} {rest : List FileStep} :
    f.performAll faults (s :: rest) = (f', none) ↔
      faults s = none ∧ ∃ next, f.perform s = (next, none) ∧
        next.performAll faults rest = (f', none) := by
  rw [performAll]
  cases faults s with
  | some e => simp
  | none => rcases f.perform s with ⟨next, _ | e⟩ <;> simp

theorem performAll_append (faults : Faults) (f : Files) (steps rest : List FileStep) :
    f.performAll faults (steps ++ rest) =
      match f.performAll faults steps with
      | (f', some e) => (f', some e)
      | (f', none) => f'.performAll faults rest := by
  induction steps generalizing f with
  | nil => rfl
  | cons s steps ih =>
    rw [List.cons_append, performAll, performAll]
    cases faults s with
    | some e => rfl
    | none =>
      rcases f.perform s with ⟨next, _ | e⟩
      · exact ih next
      · rfl

theorem performAll_append_iff {faults : Faults} {steps rest : List FileStep} :
    f.performAll faults (steps ++ rest) = (f', none) ↔
      ∃ next, f.performAll faults steps = (next, none) ∧
        next.performAll faults rest = (f', none) := by
  rw [performAll_append]
  rcases f.performAll faults steps with ⟨next, _ | e⟩ <;> simp

/-- What each step keeps is kept however many of them are performed. -/
theorem performAll_induct {P : Files → Prop} {faults : Faults} {steps : List FileStep}
    (hstep : ∀ s ∈ steps, ∀ f, P f → P (f.perform s).1) (hf : P f) :
    P (f.performAll faults steps).1 := by
  induction steps generalizing f with
  | nil => exact hf
  | cons s steps ih =>
    obtain ⟨hs, hrest⟩ := List.forall_mem_cons.1 hstep
    have hnext := hs f hf
    rw [performAll]
    cases faults s with
    | some e => exact hf
    | none =>
      rcases hperform : f.perform s with ⟨next, _ | e⟩
      · rw [hperform] at hnext
        exact ih hrest hnext
      · rwa [hperform] at hnext

theorem settled_eq_none_iff {x : Except FileError Files} :
    f.settled x = (f', none) ↔ x = .ok f' := by
  cases x <;> simp [settled]

end Files

end OpsConsole
