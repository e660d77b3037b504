import Mathlib.Data.List.Basic
import OpsConsole.Files.Basic

/-!
# Where paths lead

A path leads through directories alone. So while every directory stays one, every way that leads
somewhere leads there still, whatever happens to files; in particular when a file is taken away,
or when something is put where there is no directory. The steps do no more than that, where their
paths lead.
-/

namespace OpsConsole

namespace Files

variable {f f' f'' : Files} {loc target : Location}

theorem exists_of_bind_ok {α β : Type} {x : Except FileError α} {g : α → Except FileError β}
    {b : β} (h : x >>= g = .ok b) : ∃ a, x = .ok a ∧ g a = .ok b := by
  cases x with
  | error e => cases h
  | ok a => exact ⟨a, rfl, h⟩

theorem entryAt?_erase_of_ne (h : loc ≠ target) :
    entryAt? (f.erase target) loc = f.entryAt? loc := by
  have hfind : (f.entries.filter (·.1 ≠ target)).find? (·.1 = loc) =
      f.entries.find? (·.1 = loc) := by
    rw [List.find?_filter]
    congr 1
    funext e
    by_cases he : e.1 = loc
    · simp [he, h]
    · simp [he]
  rw [entryAt?, entryAt?, erase, hfind]

theorem entryAt?_erase_self (h : target ≠ []) : entryAt? (f.erase target) target = none := by
  have hfind : (f.entries.filter (·.1 ≠ target)).find? (·.1 = target) = none := by
    rw [List.find?_eq_none]
    intro e he
    simpa using (List.mem_filter.1 he).2
  rw [entryAt?, if_neg h, erase, hfind]
  rfl

theorem entryAt?_put_self (h : target ≠ []) (e : Entry) :
    entryAt? (f.put target e) target = some e := by
  rw [entryAt?, if_neg h, put, List.find?_cons_of_pos (by simp)]
  rfl

theorem entryAt?_put_of_ne (h : loc ≠ target) (e : Entry) :
    entryAt? (f.put target e) loc = f.entryAt? loc := by
  have hfind : (f.put target e).entries.find? (·.1 = loc) =
      (f.erase target).entries.find? (·.1 = loc) :=
    List.find?_cons_of_neg (by simpa using h.symm)
  rw [← entryAt?_erase_of_ne (f := f) h, entryAt?, entryAt?, hfind]

theorem ne_nil_of_not_directory (h : f.entryAt? loc ≠ some .directory) : loc ≠ [] := by
  rintro rfl
  exact h rfl

theorem entryAt?_of_enter {name : String} {next : Location} (h : f.enter loc name = .ok next) :
    f.entryAt? loc = some .directory := by
  rw [enter] at h
  split at h
  · cases h
  · cases h
  · next hdir => exact hdir

/-- Every directory stays one, and relative paths begin where they did. -/
structure KeepsWays (f f' : Files) : Prop where
  home : f'.home = f.home
  directory : ∀ loc, f.entryAt? loc = some .directory → f'.entryAt? loc = some .directory

namespace KeepsWays

theorem trans (h : KeepsWays f f') (h' : KeepsWays f' f'') : KeepsWays f f'' :=
  ⟨h'.home.trans h.home, fun loc hdir => h'.directory loc (h.directory loc hdir)⟩

theorem enter (h : KeepsWays f f') {name : String} {next : Location}
    (hn : f.enter loc name = .ok next) : f'.enter loc name = .ok next := by
  have hdir := entryAt?_of_enter hn
  rw [Files.enter, h.directory loc hdir]
  rwa [Files.enter, hdir] at hn

theorem walk (h : KeepsWays f f') {names : List String} {found : Location}
    (hw : f.walk loc names = .ok found) : f'.walk loc names = .ok found := by
  induction names generalizing loc with
  | nil => exact hw
  | cons n rest ih =>
    obtain ⟨next, hn, hrest⟩ := exists_of_bind_ok hw
    rw [Files.walk, h.enter hn]
    exact ih hrest

theorem origin (h : KeepsWays f f') (path : String) : f'.origin path = f.origin path := by
  rw [Files.origin, Files.origin, h.home]

theorem locate (h : KeepsWays f f') {path : String} {found : Location}
    (hl : f.locate path = .ok found) : f'.locate path = .ok found := by
  obtain ⟨u, hcheck, hwalk⟩ := exists_of_bind_ok hl
  rw [Files.locate, hcheck, h.origin]
  exact h.walk hwalk

end KeepsWays

theorem keepsWays_erase (h : f.entryAt? target ≠ some .directory) :
    KeepsWays f (f.erase target) := by
  refine ⟨rfl, fun loc hdir => ?_⟩
  have hne : loc ≠ target := by
    rintro rfl
    exact h hdir
  rwa [entryAt?_erase_of_ne hne]

theorem keepsWays_put (h : f.entryAt? target ≠ some .directory) (e : Entry) :
    KeepsWays f (f.put target e) := by
  refine ⟨rfl, fun loc hdir => ?_⟩
  have hne : loc ≠ target := by
    rintro rfl
    exact h hdir
  rwa [entryAt?_put_of_ne hne]

theorem not_directory_erase (htarget : f.entryAt? target ≠ some .directory)
    (h : f.entryAt? loc ≠ some .directory) : entryAt? (f.erase target) loc ≠ some .directory := by
  by_cases hsame : loc = target
  · rw [hsame, entryAt?_erase_self (ne_nil_of_not_directory htarget)]
    exact (Option.some_ne_none _).symm
  · rwa [entryAt?_erase_of_ne hsame]

/-! ### Ways, name by name -/

variable {path : String}

theorem enter_congr (h : f'.entryAt? loc = f.entryAt? loc) (n : String) :
    f'.enter loc n = f.enter loc n := by
  rw [enter, enter, h]

theorem read_congr (hlocate : f'.locate path = f.locate path)
    (hentry : ∀ loc, f.locate path = .ok loc → f'.entryAt? loc = f.entryAt? loc) :
    f'.read path = f.read path := by
  rw [read, read, hlocate]
  cases hloc : f.locate path with
  | error e => rfl
  | ok loc => simp only [bind, Except.bind, hentry loc hloc]

theorem walk_cons (f : Files) (loc : Location) (n : String) (ns : List String) :
    f.walk loc (n :: ns) = f.enter loc n >>= fun next => f.walk next ns := rfl

theorem walk_cons_of_enter {n : String} (h : f.enter loc n = .ok target) :
    f.walk loc (n :: ns) = f.walk target ns := by
  rw [walk_cons, h]
  rfl

theorem walk_append (f : Files) (loc : Location) (ns ms : List String) :
    f.walk loc (ns ++ ms) = f.walk loc ns >>= fun next => f.walk next ms := by
  induction ns generalizing loc with
  | nil => rfl
  | cons n ns ih =>
    rw [List.cons_append, walk, walk]
    cases f.enter loc n with
    | error e => rfl
    | ok next => exact ih next

theorem walk_append_ok {ns ms : List String} (h : f.walk loc (ns ++ ms) = .ok target) :
    ∃ next, f.walk loc ns = .ok next ∧ f.walk next ms = .ok target := by
  rw [walk_append] at h
  exact exists_of_bind_ok h

/-- What a way goes on from by another name is a directory. -/
theorem entryAt?_of_walk_append {n : String} {ns ms : List String}
    (h : f.walk loc (ns ++ n :: ms) = .ok target) :
    ∃ next, f.walk loc ns = .ok next ∧ f.entryAt? next = some .directory := by
  obtain ⟨next, hns, hrest⟩ := walk_append_ok h
  obtain ⟨beyond, henter, -⟩ := exists_of_bind_ok hrest
  exact ⟨next, hns, entryAt?_of_enter henter⟩

theorem walk_singleton (f : Files) (loc : Location) (n : String) :
    f.walk loc [n] = f.enter loc n := by
  rw [walk]
  cases f.enter loc n <;> rfl

theorem eq_of_enter {n : String} (h : f.enter loc n = .ok target) (hdot : n ≠ ".")
    (hdots : n ≠ "..") : target = loc ++ [n] := by
  rw [enter, entryAt?_of_enter h] at h
  dsimp only at h
  split at h
  · cases h
  · cases h
    rfl

theorem eq_of_enter_dot (h : f.enter loc "." = .ok target) : target = loc := by
  rw [enter, entryAt?_of_enter h] at h
  dsimp only at h
  split at h
  · cases h
  · cases h
    rfl

theorem locate_of_checkPath {u : Unit} (h : checkPath path = .ok u) (f : Files) :
    f.locate path = f.walk (f.origin path) (names path) := by
  rw [locate, h]
  rfl

/-- What a path ends in by name is in a directory. -/
theorem entryAt?_dropLast_of_locate (h : f.locate path = .ok loc) (hnamed : isNamed path = true) :
    f.entryAt? loc.dropLast = some .directory := by
  obtain ⟨-, -, hwalk⟩ := exists_of_bind_ok h
  rw [isNamed] at hnamed
  split at hnamed
  · cases hnamed
  · cases hnamed
  · cases hnamed
  · next n hdot hdots hlast =>
    rw [← List.dropLast_append_getLast? n hlast] at hwalk
    obtain ⟨next, -, henter⟩ := walk_append_ok hwalk
    rw [walk_singleton] at henter
    rw [eq_of_enter henter hdot hdots, List.dropLast_concat]
    exact entryAt?_of_enter henter

/-! ### What the steps do -/

variable {bytes : List UInt8} {ownerOnly : Bool}

theorem exists_of_write (h : f.write path bytes = .ok f') :
    ∃ loc ownerOnly, f.locate path = .ok loc ∧ isNamed path = true ∧ endsInSlash path = false ∧
      f.entryAt? loc ≠ some .directory ∧ f' = f.put loc (.file bytes ownerOnly) := by
  obtain ⟨loc, hloc, h⟩ := exists_of_bind_ok h
  split at h
  · cases h
  · next hplain =>
    rw [Bool.or_eq_true, not_or, Bool.not_eq_true', Bool.not_eq_false, Bool.not_eq_true] at hplain
    obtain ⟨hnamed, hslash⟩ := hplain
    split at h
    · cases h
    · next before hentry =>
      cases h
      exact ⟨loc, before, hloc, hnamed, hslash, by simp [hentry], rfl⟩
    · next hentry =>
      cases h
      exact ⟨loc, false, hloc, hnamed, hslash, by simp [hentry], rfl⟩

theorem exists_of_setPrivate (h : f.setPrivate path ownerOnly = .ok f') :
    ∃ loc, f.locate path = .ok loc ∧ (f.entryAt? loc = some .directory ∧ f' = f ∨
      ∃ bytes before, f.entryAt? loc = some (.file bytes before) ∧ endsInSlash path = false ∧
        f' = f.put loc (.file bytes ownerOnly)) := by
  obtain ⟨loc, hloc, h⟩ := exists_of_bind_ok h
  split at h
  · cases h
  · next hentry =>
    cases h
    exact ⟨loc, hloc, .inl ⟨hentry, rfl⟩⟩
  · next bytes before hentry =>
    split at h
    · cases h
    · next hslash =>
      cases h
      exact ⟨loc, hloc, .inr ⟨bytes, before, hentry, Bool.eq_false_iff.2 hslash, rfl⟩⟩

theorem exists_of_rename {source target : String} (h : f.rename source target = .ok f') :
    ∃ old new bytes ownerOnly, f.locate source = .ok old ∧ f.locate target = .ok new ∧
      isNamed target = true ∧ endsInSlash target = false ∧
      f.entryAt? old = some (.file bytes ownerOnly) ∧ f.entryAt? new ≠ some .directory ∧
      f' = (f.erase old).put new (.file bytes ownerOnly) := by
  obtain ⟨old, hold, h⟩ := exists_of_bind_ok h
  obtain ⟨new, hnew, h⟩ := exists_of_bind_ok h
  split at h
  · cases h
  · next hplain =>
    rw [Bool.or_eq_true, not_or, Bool.not_eq_true', Bool.not_eq_true', Bool.not_eq_false,
      Bool.not_eq_false] at hplain
    split at h
    · cases h
    · cases h
    · next bytes ownerOnly hentry =>
      split at h
      · cases h
      · next hslashes =>
        rw [Bool.or_eq_true, not_or, Bool.not_eq_true, Bool.not_eq_true] at hslashes
        split at h
        · cases h
        · next hfree =>
          cases h
          exact ⟨old, new, bytes, ownerOnly, hold, hnew, hplain.2, hslashes.2, hentry, hfree, rfl⟩

theorem exists_of_remove (h : f.remove path = .ok f') :
    ∃ loc bytes ownerOnly, f.locate path = .ok loc ∧ isNamed path = true ∧
      f.entryAt? loc = some (.file bytes ownerOnly) ∧ f' = f.erase loc := by
  obtain ⟨loc, hloc, h⟩ := exists_of_bind_ok h
  split at h
  · cases h
  · next hplain =>
    rw [Bool.not_eq_true', Bool.not_eq_false] at hplain
    split at h
    · cases h
    · cases h
    · next bytes ownerOnly hentry =>
      split at h
      · cases h
      · cases h
        exact ⟨loc, bytes, ownerOnly, hloc, hplain, hentry, rfl⟩

end Files

end OpsConsole
