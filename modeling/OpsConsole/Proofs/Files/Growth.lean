import OpsConsole.Proofs.Files.Removal
import OpsConsole.Proofs.Files.Siblings
import OpsConsole.Proofs.Files.Tree

/-!
# Directories that are made

Making the directories above a path adds directories alone. What is read at the path stays as it
is where they are all there, or where the path is barred by something else; and where one is
missing it does if the path goes down by every name from there on, because then what it leads to
lies deeper than all that is made. A path that goes up again by dots behind what is missing, or has
a name there that is too long to be looked for in any directory, may well be read in another way
once its directories are there.
-/

namespace OpsConsole

namespace Files

variable {f f' f'' : Files} {loc target : Location} {path sibling dir : String}
  {ns : List String} {depth : Nat}

/-! ### Directories that are added -/

/-- The files have become more by directories. -/
structure Grown (f f' : Files) : Prop where
  home : f'.home = f.home
  entry : ∀ loc, f'.entryAt? loc = f.entryAt? loc ∨
    f.entryAt? loc = none ∧ f'.entryAt? loc = some .directory

namespace Grown

theorem refl (f : Files) : Grown f f := ⟨rfl, fun _ => .inl rfl⟩

theorem entry_of_some (h : Grown f f') {e : Entry} (he : f.entryAt? loc = some e) :
    f'.entryAt? loc = some e := by
  rcases h.entry loc with hsame | ⟨hnone, -⟩
  · exact hsame.trans he
  · rw [he] at hnone
    cases hnone

theorem trans (h : Grown f f') (h' : Grown f' f'') : Grown f f'' := by
  refine ⟨h'.home.trans h.home, fun loc => ?_⟩
  rcases h.entry loc with hsame | ⟨hnone, hdir⟩
  · rw [← hsame]
    exact h'.entry loc
  · exact .inr ⟨hnone, h'.entry_of_some hdir⟩

theorem put (hnone : f.entryAt? loc = none) : Grown f (f.put loc .directory) := by
  refine ⟨rfl, fun other => ?_⟩
  by_cases hsame : other = loc
  · subst hsame
    have hne : other ≠ [] := by
      rintro rfl
      cases hnone
    exact .inr ⟨hnone, entryAt?_put_self hne _⟩
  · exact .inl (entryAt?_put_of_ne hsame _)

theorem keepsWays (h : Grown f f') : KeepsWays f f' := ⟨h.home, fun _ => h.entry_of_some⟩

theorem enter (h : Grown f f') {n : String} (hfound : f.enter loc n ≠ .error .notFound) :
    f'.enter loc n = f.enter loc n := by
  cases he : f.entryAt? loc with
  | none =>
    rw [Files.enter, he] at hfound
    exact absurd rfl hfound
  | some e => exact enter_congr ((h.entry_of_some he).trans he.symm) n

theorem walk (h : Grown f f') (hfound : f.walk loc ns ≠ .error .notFound) :
    f'.walk loc ns = f.walk loc ns := by
  induction ns generalizing loc with
  | nil => rfl
  | cons n ns ih =>
    rw [walk_cons] at hfound ⊢
    rw [walk_cons]
    cases henter : f.enter loc n with
    | error e =>
      rw [henter] at hfound
      rw [h.enter (henter ▸ hfound), henter]
      rfl
    | ok next =>
      rw [henter] at hfound
      rw [h.enter (henter ▸ nofun), henter]
      exact ih hfound

theorem locate (h : Grown f f') (hfound : f.locate path ≠ .error .notFound) :
    f'.locate path = f.locate path := by
  cases hcheck : checkPath path with
  | error e => rw [Files.locate, Files.locate, hcheck]; rfl
  | ok u =>
    rw [locate_of_checkPath hcheck] at hfound ⊢
    rw [locate_of_checkPath hcheck, h.keepsWays.origin]
    exact h.walk hfound

end Grown

theorem grown_makeDirectories (f : Files) (dir : String) : Grown f (f.makeDirectories dir).1 := by
  rw [makeDirectories]
  split
  · exact .refl f
  · refine makeWay_induct .refl (fun _ _ _ h h' => h.trans h') _ (fun g g' above _ hmade => ?_) f
    obtain ⟨loc, -, hnone, rfl, -⟩ := change_makeDirectory hmade
    exact .put hnone

/-! ### Ways down -/

/-- A name that leads no way up, and leads on from every directory. -/
def IsDown (n : String) : Prop := n ≠ ".." ∧ Text.Utf8.size n ≤ longestName

theorem enter_of_down {n : String} (hdir : f.entryAt? loc = some .directory) (h : IsDown n) :
    f.enter loc n = .ok (if n = "." then loc else loc ++ [n]) := by
  rw [enter, hdir]
  simp only [if_neg (Nat.not_lt.2 h.2), if_neg h.1]
  split <;> rfl

theorem length_enter {n : String} (h : f.enter loc n = .ok target) (hn : n ≠ "..") :
    target.length = loc.length + (core [n]).length := by
  by_cases hdot : n = "."
  · subst hdot
    rw [eq_of_enter_dot h, core_cons_dot]
    rfl
  · rw [eq_of_enter h hdot hn, core_cons hdot]
    simp [core]

theorem length_core_cons (n : String) (ns : List String) :
    (core (n :: ns)).length = (core [n]).length + (core ns).length := by
  rw [← List.singleton_append, core_append, List.length_append]

theorem length_walk (h : f.walk loc ns = .ok target) (hdown : ∀ n ∈ ns, IsDown n) :
    target.length = loc.length + (core ns).length := by
  induction ns generalizing loc with
  | nil =>
    cases h
    rfl
  | cons n ns ih =>
    obtain ⟨hn, hns⟩ := List.forall_mem_cons.1 hdown
    obtain ⟨next, henter, hrest⟩ := exists_of_bind_ok h
    rw [ih hrest hns, length_enter henter hn.1, length_core_cons n ns, Nat.add_assoc]

namespace Grown

/-- From what is missing, a way down leads nowhere, or to something else that is missing. -/
theorem walk_of_none (h : Grown f f') (htree : f.IsTree) (hnone : f.entryAt? loc = none)
    (hdown : ∀ n ∈ ns, IsDown n) : f'.walk loc ns = .error .notFound ∨
      ∃ target, f'.walk loc ns = .ok target ∧ f.entryAt? target = none := by
  induction ns generalizing loc with
  | nil => exact .inr ⟨loc, rfl, hnone⟩
  | cons n ns ih =>
    obtain ⟨hn, hns⟩ := List.forall_mem_cons.1 hdown
    rw [walk_cons]
    rcases h.entry loc with hsame | ⟨-, hdir⟩
    · rw [Files.enter, hsame, hnone]
      exact .inl rfl
    · rw [enter_of_down hdir hn]
      refine ih ?_ hns
      split
      · exact hnone
      · by_contra hentry
        rw [htree loc n hentry] at hnone
        cases hnone

theorem walk_of_notFound (h : Grown f f') (htree : f.IsTree) (hdown : ∀ n ∈ ns, IsDown n)
    (hmissing : f.walk loc ns = .error .notFound) : f'.walk loc ns = .error .notFound ∨
      ∃ target, f'.walk loc ns = .ok target ∧ f.entryAt? target = none := by
  induction ns generalizing loc with
  | nil => cases hmissing
  | cons n ns ih =>
    cases hentry : f.entryAt? loc with
    | none => exact h.walk_of_none htree hentry hdown
    | some e =>
      obtain ⟨hn, hns⟩ := List.forall_mem_cons.1 hdown
      have henter : f'.enter loc n = f.enter loc n :=
        enter_congr ((h.entry_of_some hentry).trans hentry.symm) n
      rw [walk_cons] at hmissing ⊢
      rw [henter]
      cases hnext : f.enter loc n with
      | error e =>
        rw [hnext] at hmissing
        cases hmissing
        exact .inl rfl
      | ok next =>
        rw [hnext] at hmissing
        exact ih hns hmissing

end Grown

/-- From a place that it leads to, the path goes down by every further name, to some depth. -/
def Descends (f : Files) (path : String) (depth : Nat) : Prop :=
  ∃ way rest there, names path = way ++ rest ∧ f.walk (f.origin path) way = .ok there ∧
    (∀ n ∈ rest, IsDown n) ∧ there.length + (core rest).length = depth

namespace Descends

theorem of_keepsWays (h : f.Descends path depth) (hkeeps : KeepsWays f f') :
    f'.Descends path depth := by
  obtain ⟨way, rest, there, hpath, hway, hdown, hdepth⟩ := h
  exact ⟨way, rest, there, hpath, hkeeps.origin path ▸ hkeeps.walk hway, hdown, hdepth⟩

theorem length (h : f.Descends path depth) (hloc : f.locate path = .ok loc) :
    loc.length = depth := by
  obtain ⟨way, rest, there, hpath, hway, hdown, hdepth⟩ := h
  obtain ⟨-, -, hwalk⟩ := exists_of_bind_ok hloc
  rw [hpath, walk_append, hway] at hwalk
  rw [← hdepth]
  exact length_walk hwalk hdown

/-- What was missed is missed still, or is where the path leads now. -/
theorem locate_of_grown (h : f.Descends path depth) (hgrown : Grown f f') (htree : f.IsTree)
    (hmissing : f.locate path = .error .notFound) : f'.locate path = .error .notFound ∨
      ∃ target, f'.locate path = .ok target ∧ f.entryAt? target = none := by
  obtain ⟨way, rest, there, hpath, hway, hdown, -⟩ := h
  cases hcheck : checkPath path with
  | error e =>
    rw [locate, hcheck] at hmissing ⊢
    exact .inl hmissing
  | ok u =>
    rw [locate_of_checkPath hcheck, hpath, walk_append] at hmissing ⊢
    rw [hgrown.keepsWays.origin, hgrown.keepsWays.walk hway]
    rw [hway] at hmissing
    exact hgrown.walk_of_notFound htree hdown hmissing

/-- A directory above the path that is missing lies less deep than what the path leads to. -/
theorem length_lt (h : f.Descends path depth) (hbeside : Beside path sibling)
    (hns : core ns <+: core (directoryParts path)) (hwalk : f.walk (f.origin path) ns = .ok loc)
    (hnone : f.entryAt? loc = none) : loc.length < depth := by
  obtain ⟨way, rest, there, hpath, hway, hdown, rfl⟩ := h
  obtain ⟨name, hcore⟩ := hbeside.core_names
  rw [hpath, core_append] at hcore
  replace hwalk := walk_core hwalk
  replace hway := walk_core hway
  have hlength := hns.length_le
  have htotal := congrArg List.length hcore
  simp only [List.length_append, List.length_singleton] at htotal
  have hbegin : core ns <+: core way ++ core rest := hcore ▸ hns.trans (List.prefix_append _ _)
  rcases List.prefix_or_prefix_of_prefix hbegin (List.prefix_append _ _) with
    ⟨on, hon⟩ | ⟨on, hon⟩
  · -- Whatever the way leads on from is a directory, so it leads no further.
    cases on with
    | nil =>
      rw [List.append_nil] at hon
      rw [← hon] at hway htotal
      obtain rfl : loc = there := Except.ok.inj (hwalk.symm.trans hway)
      omega
    | cons m on =>
      rw [← hon] at hway
      obtain ⟨loc', hloc, hdir⟩ := entryAt?_of_walk_append hway
      obtain rfl : loc = loc' := Except.ok.inj (hwalk.symm.trans hloc)
      rw [hdir] at hnone
      cases hnone
  · rw [← hon] at hwalk hbegin hlength
    obtain ⟨there', hthere, hwalk⟩ := walk_append_ok hwalk
    obtain rfl : there = there' := Except.ok.inj (hway.symm.trans hthere)
    have hrest : on <+: core rest := (List.prefix_append_right_inj _).1 hbegin
    have hdeep := length_walk hwalk fun n hn =>
      hdown n (List.mem_of_mem_filter (hrest.subset hn))
    have hon' : (core on).length ≤ on.length := List.length_filter_le ..
    rw [List.length_append] at hlength
    omega

end Descends

/-- No directory is made as deep as what the path leads to. -/
theorem entryAt?_makeDirectories (hbeside : Beside path sibling) (habove : Above path dir)
    (h : f.Descends path depth) (hdeep : depth ≤ loc.length) :
    entryAt? (f.makeDirectories dir).1 loc = f.entryAt? loc := by
  rw [makeDirectories]
  split
  · rfl
  · have hway := makeWay_induct
      (R := fun g g' => g.Descends path depth → g'.Descends path depth ∧
        g'.entryAt? loc = g.entryAt? loc) (fun g hg => ⟨hg, rfl⟩) ?_ (dir :: directories dir) ?_ f
    · exact (hway h).2
    · intro g g' g'' h h' hg
      obtain ⟨hg', hentry⟩ := h hg
      obtain ⟨hg'', hentry'⟩ := h' hg'
      exact ⟨hg'', hentry'.trans hentry⟩
    · intro g g' above hmem hmade hg
      obtain ⟨made, hloc, hnone, rfl, -⟩ := change_makeDirectory hmade
      obtain ⟨hbegin, habsolute⟩ := habove.trans_mem hmem
      have horigin : g.origin above = g.origin path := by rw [origin, origin, habsolute]
      obtain ⟨-, -, hwalk⟩ := exists_of_bind_ok hloc
      have hshallow := hg.length_lt hbeside hbegin (horigin ▸ hwalk) hnone
      have hne : loc ≠ made := by
        rintro rfl
        omega
      exact ⟨hg.of_keepsWays (Grown.put hnone).keepsWays, entryAt?_put_of_ne hne _⟩

/-! ### Directories that are there -/

theorem checkPath_ne_notFound (h : path ≠ "") : checkPath path ≠ .error .notFound := by
  simp only [checkPath, if_neg h]
  split
  · nofun
  · split <;> nofun

theorem exists_directory (hbeside : Beside path sibling) (habove : Above path dir)
    (h : f.locate path = .ok loc) : ∃ there, f.walk (f.origin dir) (names dir) = .ok there ∧
      f.entryAt? there = some .directory := by
  obtain ⟨way, dots, name, other, hpath, -, -, hway, -, -, -, -⟩ := hbeside
  obtain ⟨rest, hrest⟩ := habove.1
  obtain ⟨-, -, hwalk⟩ := exists_of_bind_ok h
  rw [hpath] at hwalk
  obtain ⟨parent, hlead, hparent⟩ := entryAt?_of_walk_append hwalk
  have hdirs : f.walk (f.origin path) (names dir ++ rest) = .ok parent := by
    rw [hrest]
    exact walk_of_core (hway ▸ walk_core hlead) hparent
  obtain ⟨there, hthere, hon⟩ := walk_append_ok hdirs
  have horigin : f.origin dir = f.origin path := by rw [origin, origin, habove.2]
  exact ⟨there, horigin ▸ hthere, entryAt?_of_walk hon hparent⟩

theorem makeDirectories_of_directory {there : Location}
    (hwalk : f.walk (f.origin dir) (names dir) = .ok there)
    (hentry : f.entryAt? there = some .directory) : (f.makeDirectories dir).1 = f := by
  rw [makeDirectories]
  split
  · rfl
  · next hparts =>
    have hne : dir ≠ "" := by
      rintro rfl
      exact hparts (by decide)
    obtain ⟨e, he, hbarred⟩ : ∃ e, f.makeDirectory dir = .error e ∧ e ≠ .notFound := by
      rw [makeDirectory, locate]
      cases hcheck : checkPath dir with
      | error e => exact ⟨e, rfl, fun he => checkPath_ne_notFound hne (he ▸ hcheck)⟩
      | ok u =>
        refine ⟨.alreadyThere, ?_, by decide⟩
        simp only [bind, Except.bind, hwalk, hentry]
        simp
    rw [makeWay, he]
    cases e with
    | notFound => exact absurd rfl hbarred
    | _ => rfl

/-! ### What is read -/

/-- The path misses no directory, or goes down by every name behind those that are there, among
files that form a tree. -/
def Steady (f : Files) (path : String) : Prop :=
  f.locate path ≠ .error .notFound ∨ (∃ depth, f.Descends path depth) ∧ f.IsTree

theorem steady_makeDirectories (hbeside : Beside path sibling) (habove : Above path dir)
    (h : f.Steady path) : (f.makeDirectories dir).1.read path = f.read path ∧
      Steady (f.makeDirectories dir).1 path := by
  have hgrown := grown_makeDirectories f dir
  by_cases hmissing : f.locate path = .error .notFound
  · obtain ⟨⟨depth, hdescends⟩, htree⟩ := h.resolve_left (not_not_intro hmissing)
    have hdescends' := hdescends.of_keepsWays hgrown.keepsWays
    refine ⟨?_, .inr ⟨⟨depth, hdescends'⟩, (changes_makeDirectories f dir).isTree htree⟩⟩
    rw [read_of_locate_error hmissing]
    rcases hdescends.locate_of_grown hgrown htree hmissing with hstill | ⟨target, hfound, hnone⟩
    · exact read_of_locate_error hstill
    · have hdeep : depth ≤ target.length := Nat.le_of_eq (hdescends'.length hfound).symm
      have hentry := entryAt?_makeDirectories hbeside habove hdescends hdeep
      exact read_of_none hfound (hentry.trans hnone)
  · have hlocate := hgrown.locate hmissing
    refine ⟨read_congr hlocate fun loc hloc => ?_, .inl (hlocate ▸ hmissing)⟩
    obtain ⟨there, hwalk, hentry⟩ := exists_directory hbeside habove hloc
    rw [makeDirectories_of_directory hwalk hentry]

end Files

end OpsConsole
