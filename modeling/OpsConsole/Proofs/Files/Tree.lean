import Mathlib.Logic.Relation
import OpsConsole.Proofs.Files.Ways

/-!
# Files as a tree

Whatever a step does, it does by putting entries where there is a directory to hold them and no
directory to be replaced, and by taking away what is no directory. So every directory stays, and in
files that form a tree every entry is still in a directory after any step, whether it failed or not.
-/

namespace OpsConsole

namespace Files

variable {f f' : Files} {loc target : Location} {path : String}

/-! ### Changes -/

/-- Every entry is in a directory. -/
def IsTree (f : Files) : Prop :=
  ∀ loc name, f.entryAt? (loc ++ [name]) ≠ none → f.entryAt? loc = some .directory

theorem isTree_empty : IsTree empty := by
  intro loc name hentry
  have hhere : loc ++ [name] = ["work"] := by
    by_contra hne
    have hother : ["work"] ≠ loc ++ [name] := fun he => hne he.symm
    rw [entryAt?, if_neg (by simp), empty, List.find?_cons_of_neg (by simpa using hother)] at hentry
    exact hentry rfl
  obtain ⟨rfl, -⟩ := List.append_inj' (hhere.trans (List.nil_append _).symm) rfl
  rfl

/-- One change: an entry is put in a directory, or in the place of a file, or a file is taken
away. -/
inductive Change (f : Files) : Files → Prop
  | put (target : Location) (e : Entry) (hfree : f.entryAt? target ≠ some .directory)
    (hplace : f.entryAt? target ≠ none ∨ f.entryAt? target.dropLast = some .directory) :
    Change f (f.put target e)
  | erase (target : Location) (hfree : f.entryAt? target ≠ some .directory) :
    Change f (f.erase target)

abbrev Changes : Files → Files → Prop := Relation.ReflTransGen Change

theorem KeepsWays.refl (f : Files) : KeepsWays f f := ⟨rfl, fun _ h => h⟩

theorem Change.keepsWays (h : Change f f') : KeepsWays f f' := by
  cases h with
  | put target e hfree => exact keepsWays_put hfree e
  | erase target hfree => exact keepsWays_erase hfree

theorem Changes.keepsWays (h : Changes f f') : KeepsWays f f' := by
  induction h with
  | refl => exact .refl f
  | tail _ hchange ih => exact ih.trans hchange.keepsWays

/-- A change keeps what it does not concern, so what lies in a directory lies in one still. -/
theorem Change.isTree (h : Change f f') (htree : f.IsTree) : f'.IsTree := by
  intro loc name hentry
  refine h.keepsWays.directory loc ?_
  cases h with
  | put target e hfree hplace =>
    by_cases hhere : loc ++ [name] = target
    · subst hhere
      rw [List.dropLast_concat] at hplace
      exact hplace.elim (htree loc name) id
    · rw [entryAt?_put_of_ne hhere] at hentry
      exact htree loc name hentry
  | erase target hfree =>
    by_cases hhere : loc ++ [name] = target
    · rw [← hhere, entryAt?_erase_self (by simp)] at hentry
      exact absurd rfl hentry
    · rw [entryAt?_erase_of_ne hhere] at hentry
      exact htree loc name hentry

theorem Changes.isTree (h : Changes f f') (htree : f.IsTree) : f'.IsTree := by
  induction h with
  | refl => exact htree
  | tail _ hchange ih => exact hchange.isTree ih

/-! ### What the steps change -/

theorem changes_write {bytes : List UInt8} (h : f.write path bytes = .ok f') : Changes f f' := by
  obtain ⟨loc, ownerOnly, hloc, hnamed, -, hfree, rfl⟩ := exists_of_write h
  exact .single (.put loc _ hfree (.inr (entryAt?_dropLast_of_locate hloc hnamed)))

theorem changes_setPrivate {ownerOnly : Bool} (h : f.setPrivate path ownerOnly = .ok f') :
    Changes f f' := by
  obtain ⟨loc, -, ⟨-, rfl⟩ | ⟨bytes, before, hentry, -, rfl⟩⟩ := exists_of_setPrivate h
  · exact .refl
  · exact .single (.put loc _ (by simp [hentry]) (.inl (by simp [hentry])))

theorem changes_rename {source target : String} (h : f.rename source target = .ok f') :
    Changes f f' := by
  obtain ⟨old, new, bytes, ownerOnly, -, hnew, hnamed, -, hentry, hfree, rfl⟩ :=
    exists_of_rename h
  have hfile : f.entryAt? old ≠ some .directory := by simp [hentry]
  have herase : Change f (f.erase old) := .erase old hfile
  have hplace : entryAt? (f.erase old) new.dropLast = some .directory :=
    herase.keepsWays.directory _ (entryAt?_dropLast_of_locate hnew hnamed)
  exact .tail (.single herase) (.put new _ (not_directory_erase hfile hfree) (.inr hplace))

theorem changes_remove (h : f.remove path = .ok f') : Changes f f' := by
  obtain ⟨loc, bytes, ownerOnly, -, -, hentry, rfl⟩ := exists_of_remove h
  exact .single (.erase loc (by simp [hentry]))

theorem change_makeDirectory (h : f.makeDirectory path = .ok f') :
    ∃ loc, f.locate path = .ok loc ∧ f.entryAt? loc = none ∧ f' = f.put loc .directory ∧
      Change f f' := by
  obtain ⟨loc, hloc, h⟩ := exists_of_bind_ok h
  split at h
  · cases h
  · next hfree =>
    cases h
    obtain ⟨hnamed, hentry⟩ := not_or.1 hfree
    have hnone : f.entryAt? loc = none := by simpa using hentry
    have hplace := entryAt?_dropLast_of_locate hloc (by simpa using hnamed)
    exact ⟨loc, hloc, hnone, rfl, .put loc _ (by simp [hnone]) (.inr hplace)⟩

theorem makeWay_induct {R : Files → Files → Prop} (hrefl : ∀ f, R f f)
    (htrans : ∀ f f' f'', R f f' → R f' f'' → R f f'') (paths : List String)
    (hmake : ∀ f f', ∀ path ∈ paths, f.makeDirectory path = .ok f' → R f f') (f : Files) :
    R f (f.makeWay paths).1 := by
  have hsettled : ∀ f, ∀ path ∈ paths, R f (f.settledDirectory path (f.makeDirectory path)).1 := by
    intro f path hpath
    cases hmade : f.makeDirectory path with
    | error e => exact hrefl f
    | ok f' => exact hmake f f' path hpath hmade
  induction paths generalizing f with
  | nil => exact hrefl f
  | cons path above ih =>
    have habove := ih (fun f f' path hpath => hmake f f' path (List.mem_cons_of_mem _ hpath)) f
      (fun f path hpath => hsettled f path (List.mem_cons_of_mem _ hpath))
    have hpath := fun f => hsettled f path List.mem_cons_self
    rw [makeWay]
    split
    · split
      · next f' e hway => rwa [hway] at habove
      · next f' hway =>
        rw [hway] at habove
        exact htrans _ _ _ habove (hpath f')
    · exact hpath f

theorem changes_makeDirectories (f : Files) (path : String) :
    Changes f (f.makeDirectories path).1 := by
  rw [makeDirectories]
  split
  · exact .refl
  · exact makeWay_induct (fun _ => .refl) (fun _ _ _ h h' => h.trans h') _
      (fun _ _ _ _ h => .single (change_makeDirectory h).choose_spec.2.2.2) f

theorem settled_induct {P : Files → Prop} {x : Except FileError Files} (hf : P f)
    (hok : ∀ f', x = .ok f' → P f') : P (f.settled x).1 := by
  cases x with
  | error e => exact hf
  | ok f' => exact hok f' rfl

theorem changes_perform (f : Files) (s : FileStep) : Changes f (f.perform s).1 := by
  cases s with
  | makeDirectories path => exact changes_makeDirectories f path
  | write path bytes => exact settled_induct .refl fun _ => changes_write
  | restrict path => exact settled_induct .refl fun _ => changes_setPrivate
  | rename source target => exact settled_induct .refl fun _ => changes_rename
  | remove path => exact settled_induct .refl fun _ => changes_remove

end Files

end OpsConsole
