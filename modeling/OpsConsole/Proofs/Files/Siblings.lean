import OpsConsole.Proofs.Files.Names
import OpsConsole.Proofs.Files.Ways

/-!
# Steps at a sibling

What is read at a path depends on the directories that lead to it and on one entry. A sibling of
the path leads to another entry of the same directory, so writing it and making it private leave
what is read at the path as it is, and so does anything else that changes this entry alone.
-/

namespace OpsConsole

namespace Files

variable {f f' : Files} {loc target : Location} {path sibling : String} {ns : List String}

/-! ### Dots on a way -/

theorem entryAt?_of_walk (h : f.walk loc ns = .ok target)
    (htarget : f.entryAt? target = some .directory) : f.entryAt? loc = some .directory := by
  cases ns with
  | nil =>
    cases h
    exact htarget
  | cons n ns =>
    obtain ⟨next, hnext, -⟩ := exists_of_bind_ok h
    exact entryAt?_of_enter hnext

theorem enter_dot (h : f.entryAt? loc = some .directory) : f.enter loc "." = .ok loc := by
  have hsize : ¬ longestName < Text.Utf8.size "." := by decide
  rw [enter, h]
  simp only [if_neg hsize, if_pos]

theorem walk_core (h : f.walk loc ns = .ok target) : f.walk loc (core ns) = .ok target := by
  induction ns generalizing loc with
  | nil => exact h
  | cons n ns ih =>
    obtain ⟨next, hnext, hrest⟩ := exists_of_bind_ok h
    by_cases hn : n = "."
    · subst hn
      rw [core_cons_dot, ← eq_of_enter_dot hnext]
      exact ih hrest
    · rw [core_cons hn, walk_cons_of_enter hnext]
      exact ih hrest

theorem walk_of_core (h : f.walk loc (core ns) = .ok target)
    (htarget : f.entryAt? target = some .directory) : f.walk loc ns = .ok target := by
  induction ns generalizing loc with
  | nil => exact h
  | cons n ns ih =>
    by_cases hn : n = "."
    · subst hn
      rw [core_cons_dot] at h
      rw [walk_cons_of_enter (enter_dot (entryAt?_of_walk h htarget))]
      exact ih h
    · rw [core_cons hn] at h
      obtain ⟨next, hnext, hrest⟩ := exists_of_bind_ok h
      rw [walk_cons_of_enter hnext]
      exact ih hrest

/-! ### Steps at a sibling -/

theorem walk_dots (hentry : f'.entryAt? loc = f.entryAt? loc) (hdots : ∀ d ∈ ns, d = ".") :
    f'.walk loc ns = f.walk loc ns ∧ ∀ target, f.walk loc ns = .ok target → target = loc := by
  induction ns with
  | nil => exact ⟨rfl, fun target h => (Except.ok.inj h).symm⟩
  | cons d ns ih =>
    obtain ⟨rfl, hrest⟩ := List.forall_mem_cons.1 hdots
    cases henter : f.enter loc "." with
    | error e =>
      rw [walk_cons, walk_cons, enter_congr hentry, henter]
      exact ⟨rfl, fun target h => nomatch h⟩
    | ok next =>
      obtain rfl := eq_of_enter_dot henter
      rw [walk_cons_of_enter henter, walk_cons_of_enter ((enter_congr hentry _).trans henter)]
      exact ih hrest

/-- The entry of a directory that a way ends in, dots behind it or not, is all that the end of the
way depends on. -/
theorem walk_last {name : String} (hdir : f.entryAt? loc = some .directory)
    (hdir' : f'.entryAt? loc = some .directory) (hname : IsProper name)
    (hentry : f'.entryAt? (loc ++ [name]) = f.entryAt? (loc ++ [name]))
    (hdots : ∀ d ∈ ns, d = ".") :
    f'.walk loc (name :: ns) = f.walk loc (name :: ns) ∧
      ∀ target, f.walk loc (name :: ns) = .ok target → target = loc ++ [name] := by
  have hsame : f'.enter loc name = f.enter loc name := enter_congr (hdir'.trans hdir.symm) name
  cases henter : f.enter loc name with
  | error e =>
    rw [walk_cons, walk_cons, hsame, henter]
    exact ⟨rfl, fun target h => nomatch h⟩
  | ok next =>
    obtain rfl := eq_of_enter henter hname.1 hname.2
    rw [walk_cons_of_enter henter, walk_cons_of_enter (hsame.trans henter)]
    exact walk_dots hentry hdots

/-- Whatever changes where a sibling of the path leads, the path leads where it did, to what it
did. -/
theorem same_beside (hbeside : Beside path sibling)
    (hsibling : f.locate sibling = .ok target) (hkeeps : KeepsWays f f')
    (hentry : ∀ loc ≠ target, f'.entryAt? loc = f.entryAt? loc) :
    f'.locate path = f.locate path ∧
      ∀ loc, f.locate path = .ok loc → f'.entryAt? loc = f.entryAt? loc := by
  obtain ⟨way, dots, name, other, hpath, hdots, hnames, hway, hname, hother, hne, habsolute⟩ :=
    hbeside
  have horigin : f.origin sibling = f.origin path := by rw [origin, origin, habsolute]
  obtain ⟨-, -, hwalk⟩ := exists_of_bind_ok hsibling
  rw [hnames, horigin] at hwalk
  obtain ⟨parent, hparent, hlast⟩ := walk_append_ok hwalk
  rw [walk_singleton] at hlast
  obtain rfl := eq_of_enter hlast hother.1 hother.2
  have hdir := entryAt?_of_enter hlast
  -- The names before the last one are those of the sibling's directory but for dots.
  have hlead : f.walk (f.origin path) way = .ok parent := by
    refine walk_of_core ?_ hdir
    rw [hway]
    exact walk_core hparent
  obtain ⟨hsame, hend⟩ := walk_last hdir (hkeeps.directory parent hdir) hname
    (hentry (parent ++ [name]) (by simpa using hne)) hdots
  have hfound : f.walk (f.origin path) (names path) = f.walk parent (name :: dots) := by
    rw [hpath, walk_append, hlead]
    rfl
  have hfound' : f'.walk (f'.origin path) (names path) = f'.walk parent (name :: dots) := by
    rw [hpath, walk_append, hkeeps.origin, hkeeps.walk hlead]
    rfl
  constructor
  · rw [locate, locate, hfound, hfound', hsame]
  · intro loc hloc
    obtain ⟨-, -, hloc⟩ := exists_of_bind_ok hloc
    rw [hend loc (hfound.symm.trans hloc)]
    exact hentry _ (by simpa using hne)

/-- From one state of the files to another, the path leads where it did and is read as it was. -/
def Unseen (path : String) (f f' : Files) : Prop :=
  f'.locate path = f.locate path ∧ f'.read path = f.read path

theorem unseen_put (hbeside : Beside path sibling) (hsibling : f.locate sibling = .ok target)
    (hfree : f.entryAt? target ≠ some .directory) (e : Entry) : Unseen path f (f.put target e) := by
  obtain ⟨hlocate, hentry⟩ := same_beside hbeside hsibling (keepsWays_put hfree e)
    fun loc hne => entryAt?_put_of_ne hne e
  exact ⟨hlocate, read_congr hlocate hentry⟩

theorem unseen_write {bytes : List UInt8} (hbeside : Beside path sibling)
    (h : f.write sibling bytes = .ok f') : Unseen path f f' := by
  obtain ⟨target, ownerOnly, hsibling, -, -, hfree, rfl⟩ := exists_of_write h
  exact unseen_put hbeside hsibling hfree _

theorem unseen_setPrivate {ownerOnly : Bool} (hbeside : Beside path sibling)
    (h : f.setPrivate sibling ownerOnly = .ok f') : Unseen path f f' := by
  obtain ⟨target, hsibling, ⟨-, rfl⟩ | ⟨bytes, before, hfile, -, rfl⟩⟩ := exists_of_setPrivate h
  · exact ⟨rfl, rfl⟩
  · exact unseen_put hbeside hsibling (by simp [hfile]) _

end Files

end OpsConsole
