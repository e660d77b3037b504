import OpsConsole.Proofs.Files.Ways

/-!
# Files that are removed

Taking away a file bars no way but the one that ends at it. Hence a file that was removed is not
found again at its own path; and a path at which nothing was found to be removed can be read no
better.
-/

namespace OpsConsole

namespace Files

variable {f : Files} {loc : Location}

theorem read_of_none {path : String} (hloc : f.locate path = .ok loc)
    (hnone : f.entryAt? loc = none) : f.read path = .error .notFound := by
  rw [read, hloc]
  simp only [bind, Except.bind, hnone]

theorem read_of_locate_error {path : String} {e : FileError} (h : f.locate path = .error e) :
    f.read path = .error e := by
  rw [read, h]
  rfl

theorem read_of_remove_notFound {path : String} (h : f.remove path = .error .notFound) :
    f.read path = .error .notFound := by
  rw [remove] at h
  cases hloc : f.locate path with
  | error e =>
    rw [hloc] at h
    cases h
    exact read_of_locate_error hloc
  | ok loc =>
    rw [hloc] at h
    simp only [bind, Except.bind] at h
    split at h
    · cases h
    · split at h
      · next hnone => exact read_of_none hloc hnone
      · cases h
      · split at h
        · cases h
        · cases h

theorem remove_of_remove {path : String} {f' : Files} (h : f.remove path = .ok f') :
    f'.remove path = .error .notFound := by
  obtain ⟨loc, bytes, ownerOnly, hloc, hnamed, hentry, rfl⟩ := exists_of_remove h
  have hfile : f.entryAt? loc ≠ some .directory := by simp [hentry]
  have hgone : entryAt? (f.erase loc) loc = none :=
    entryAt?_erase_self (ne_nil_of_not_directory hfile)
  rw [remove, (keepsWays_erase hfile).locate hloc]
  simp only [bind, Except.bind, hnamed, hgone]
  rfl

theorem read_of_remove {path : String} {f' : Files} (h : f.remove path = .ok f') :
    f'.read path = .error .notFound :=
  read_of_remove_notFound (remove_of_remove h)

theorem performAll_singleton (faults : Faults) (f : Files) (s : FileStep) :
    f.performAll faults [s] =
      match faults s with
      | some e => (f, some e)
      | none => f.perform s := by
  rw [performAll]
  cases faults s with
  | some e => rfl
  | none => rcases f.perform s with ⟨f', _ | e⟩ <;> rfl

end Files

end OpsConsole
