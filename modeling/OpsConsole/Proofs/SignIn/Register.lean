import OpsConsole.Proofs.Files.Growth
import OpsConsole.Proofs.SignIn.Saving

/-!
# The token file as a register

A save gets ready what it is going to rename: it makes the directories of the token file and writes
a sibling. None of that is seen at the path of the token file, however far it comes, so only the
renaming counts, and this does all or nothing. What is loaded is therefore what the last success
left, whatever failed since and whatever it left behind.

It is taken for granted that a step which fails changes the directories and the sibling at most,
and that no file is said to be missing when it is removed but is there.
-/

namespace OpsConsole

/-- What befalls a token file: each step may fail from outside, and what a failing step had done
to other files by then may be left over. -/
inductive TokenFileEvent
  | save (faults : Files.Faults) (token : BearerToken)
  | clear (faults : Files.Faults)
  | leftover (step : FileStep)

namespace TokenFile

open Files

variable {t : TokenFile} {f f' : Files} {faults : Faults} {token : BearerToken} {s : FileStep}

/-! ### Getting ready -/

/-- The sibling is another path than that of the token file. -/
def Apart (t : TokenFile) : Prop := parts t.sibling ≠ parts t.path

instance (t : TokenFile) : Decidable t.Apart := inferInstanceAs (Decidable (_ ≠ _))

/-- The steps that get a save ready. -/
inductive Prepares (t : TokenFile) : FileStep → Prop
  | makeDirectories (dir : String) (habove : Above t.path dir) : Prepares t (.makeDirectories dir)
  | write (bytes : List UInt8) : Prepares t (.write t.sibling bytes)
  | restrict : Prepares t (.restrict t.sibling)

def preparations (t : TokenFile) (token : BearerToken) : List FileStep :=
  let dir := directory t.path
  (if dir = "" then [] else [.makeDirectories dir]) ++
    [.write t.sibling (Text.Utf8.encode token.text), .restrict t.sibling]

theorem saving_eq (t : TokenFile) (token : BearerToken) :
    t.saving token = t.preparations token ++ [.rename t.sibling t.path] := by
  simp [saving, preparations]

theorem prepares_of_mem (h : s ∈ t.preparations token) : t.Prepares s := by
  rcases List.mem_append.1 h with h | h
  · split at h
    · cases h
    · rw [List.mem_singleton.1 h]
      exact .makeDirectories _ (above_directory t.path)
  · simp only [List.mem_cons, List.not_mem_nil, or_false] at h
    rcases h with rfl | rfl
    · exact .write _
    · exact .restrict

theorem steady_of_locate_eq (h : f.Steady t.path) (hchanges : Changes f f')
    (hlocate : f'.locate t.path = f.locate t.path) : f'.Steady t.path := by
  rcases h with hfound | ⟨⟨depth, hdown⟩, htree⟩
  · exact .inl (hlocate ▸ hfound)
  · exact .inr ⟨⟨depth, hdown.of_keepsWays hchanges.keepsWays⟩, hchanges.isTree htree⟩

theorem steady_of_locate {loc : Location} (hchanges : Changes f f')
    (hloc : f.locate t.path = .ok loc) : f'.Steady t.path := by
  refine .inl ?_
  rw [hchanges.keepsWays.locate hloc]
  nofun

/-- The files look to the token file as they did, and will go on to do so. -/
def Alike (t : TokenFile) (f f' : Files) : Prop :=
  f'.read t.path = f.read t.path ∧ f'.Steady t.path

theorem Prepares.alike (hapart : t.Apart) (hsteady : f.Steady t.path) (h : t.Prepares s) :
    t.Alike f (f.perform s).1 := by
  have hbeside := beside_sibling hapart
  cases h with
  | makeDirectories dir habove => exact steady_makeDirectories hbeside habove hsteady
  | write bytes =>
    have hunseen : Unseen t.path f (f.perform (.write t.sibling bytes)).1 :=
      settled_induct ⟨rfl, rfl⟩ fun f' => unseen_write hbeside
    exact ⟨hunseen.2, steady_of_locate_eq hsteady (changes_perform f _) hunseen.1⟩
  | restrict =>
    have hunseen : Unseen t.path f (f.perform (.restrict t.sibling)).1 :=
      settled_induct ⟨rfl, rfl⟩ fun f' => unseen_setPrivate hbeside
    exact ⟨hunseen.2, steady_of_locate_eq hsteady (changes_perform f _) hunseen.1⟩

theorem steady_rename (hsteady : f.Steady t.path) (source : String) :
    (f.perform (.rename source t.path)).1.Steady t.path := by
  refine settled_induct (P := fun g => g.Steady t.path) hsteady fun f' hrename => ?_
  obtain ⟨-, new, -, -, -, hnew, -⟩ := exists_of_rename hrename
  exact steady_of_locate (changes_rename hrename) hnew

theorem steady_remove (hsteady : f.Steady t.path) :
    (f.perform (.remove t.path)).1.Steady t.path := by
  refine settled_induct (P := fun g => g.Steady t.path) hsteady fun f' hremove => ?_
  obtain ⟨loc, -, -, hloc, -⟩ := exists_of_remove hremove
  exact steady_of_locate (changes_remove hremove) hloc

/-! ### Saving -/

theorem alike_preparations (hapart : t.Apart) (hsteady : f.Steady t.path) (faults : Faults)
    (token : BearerToken) : t.Alike f (f.performAll faults (t.preparations token)).1 := by
  refine performAll_induct (P := t.Alike f) (fun s hs g hg => ?_) ⟨rfl, hsteady⟩
  have hstep := (prepares_of_mem hs).alike hapart hg.2
  exact ⟨hstep.1.trans hg.1, hstep.2⟩

theorem steady_save (hapart : t.Apart) (hsteady : f.Steady t.path) (faults : Faults)
    (token : BearerToken) : (t.save faults f token).1.Steady t.path := by
  have hsave : (t.save faults f token).1 = (f.performAll faults (t.saving token)).1 := by
    rw [save]
    rcases f.performAll faults (t.saving token) with ⟨g, _ | e⟩ <;> rfl
  rw [hsave, saving_eq]
  refine performAll_induct (P := fun g => g.Steady t.path) (fun s hs g hg => ?_) hsteady
  rcases List.mem_append.1 hs with hs | hs
  · exact ((prepares_of_mem hs).alike hapart hg).2
  · rw [List.mem_singleton.1 hs]
    exact steady_rename hg _

theorem files_of_save_error (h : (t.save faults f token).2 ≠ .ok ()) :
    (t.save faults f token).1 = (f.performAll faults (t.preparations token)).1 := by
  rw [save, saving_eq, performAll_append] at h ⊢
  rcases hready : f.performAll faults (t.preparations token) with ⟨ready, _ | e⟩
  · simp only [hready, performAll_singleton] at h ⊢
    cases hfault : faults (.rename t.sibling t.path) with
    | some e => rfl
    | none =>
      simp only [hfault, perform] at h ⊢
      cases hrename : ready.rename t.sibling t.path with
      | error e => rfl
      | ok renamed =>
        rw [hrename] at h
        exact absurd rfl h
  · rfl

theorem load_congr (h : f'.read t.path = f.read t.path) : t.load f' = t.load f := by
  rw [load, load, h]

theorem load_of_save (h : (t.save faults f token).2 = .ok ()) :
    t.load (t.save faults f token).1 = .ok (some token) :=
  load_of_read (read_save h)

theorem load_of_save_error (hapart : t.Apart) (hsteady : f.Steady t.path)
    (h : (t.save faults f token).2 ≠ .ok ()) : t.load (t.save faults f token).1 = t.load f := by
  rw [files_of_save_error h]
  exact load_congr (alike_preparations hapart hsteady faults token).1

/-! ### Clearing -/

theorem clear_of_ok (hfault : faults (.remove t.path) ≠ some .notFound)
    (h : (t.clear faults f).2 = .ok ()) : t.clear faults f = t.clear noFaults f := by
  have hnone : faults (.remove t.path) = none := by
    cases he : faults (.remove t.path) with
    | none => rfl
    | some e =>
      rw [he] at hfault
      rw [clear, performAll_singleton, he] at h
      cases e with
      | notFound => exact absurd rfl hfault
      | _ => cases h
  rw [clear, clear, performAll_singleton, performAll_singleton, hnone, noFaults]

theorem files_of_clear_error (h : (t.clear faults f).2 ≠ .ok ()) : (t.clear faults f).1 = f := by
  rw [clear, performAll_singleton] at h ⊢
  cases hfault : faults (.remove t.path) with
  | some e => cases e <;> rfl
  | none =>
    simp only [hfault, perform] at h ⊢
    cases hremove : f.remove t.path with
    | error e => cases e <;> rfl
    | ok f' =>
      rw [hremove] at h
      exact absurd rfl h

theorem steady_clear (hsteady : f.Steady t.path) (faults : Faults) :
    (t.clear faults f).1.Steady t.path := by
  have hclear : (t.clear faults f).1 = (f.performAll faults [.remove t.path]).1 := by
    rw [clear]
    rcases f.performAll faults [.remove t.path] with ⟨g, _ | e⟩
    · rfl
    · cases e <;> rfl
  rw [hclear]
  refine performAll_induct (P := fun g => g.Steady t.path) (fun s hs g hg => ?_) hsteady
  rw [List.mem_singleton.1 hs]
  exact steady_remove hg

theorem load_of_clear (hfault : faults (.remove t.path) ≠ some .notFound)
    (h : (t.clear faults f).2 = .ok ()) : t.load (t.clear faults f).1 = .ok none := by
  have hsame := clear_of_ok hfault h
  rw [hsame] at h ⊢
  exact load_clear h

theorem remove_of_clear (hfault : faults (.remove t.path) ≠ some .notFound)
    (h : (t.clear faults f).2 = .ok ()) :
    (t.clear faults f).1.remove t.path = .error .notFound := by
  have hsame := clear_of_ok hfault h
  rw [hsame, clear_eq] at h ⊢
  cases hremove : f.remove t.path with
  | ok f' => exact remove_of_remove hremove
  | error e =>
    cases e with
    | notFound => exact hremove
    | _ =>
      rw [hremove] at h
      cases h

theorem clear_of_remove (h : f.remove t.path = .error .notFound) (faults : Faults) :
    (t.clear faults f).1 = f ∧
      (faults (.remove t.path) = none → (t.clear faults f).2 = .ok ()) := by
  rw [clear, performAll_singleton, perform, h]
  cases faults (.remove t.path) with
  | none => exact ⟨rfl, fun _ => rfl⟩
  | some e =>
    refine ⟨?_, fun hnone => by cases hnone⟩
    cases e <;> rfl

/-! ### Sequences of events -/

def after (t : TokenFile) (f : Files) : TokenFileEvent → Files
  | .save faults token => (t.save faults f token).1
  | .clear faults => (t.clear faults f).1
  | .leftover s => (f.perform s).1

def run (t : TokenFile) (f : Files) (events : List TokenFileEvent) : Files :=
  events.foldl t.after f

/-- What a success leaves in the token file: a token, or nothing. -/
def left? (t : TokenFile) (f : Files) : TokenFileEvent → Option (Option BearerToken)
  | .save faults token => if (t.save faults f token).2 = .ok () then some (some token) else none
  | .clear faults => if (t.clear faults f).2 = .ok () then some none else none
  | .leftover _ => none

/-- What the last success leaves, if there is one. -/
def lastLeft? (t : TokenFile) (f : Files) : List TokenFileEvent → Option (Option BearerToken)
  | [] => none
  | e :: rest => (t.lastLeft? (t.after f e) rest).or (t.left? f e)

/-- No file that is there is said to be missing, and what failing steps leave behind concerns the
directories and the sibling. -/
def Allows (t : TokenFile) : TokenFileEvent → Prop
  | .save .. => True
  | .clear faults => faults (.remove t.path) ≠ some .notFound
  | .leftover s => t.Prepares s

theorem steady_after {e : TokenFileEvent} (hapart : t.Apart) (hsteady : f.Steady t.path)
    (h : t.Allows e) : (t.after f e).Steady t.path := by
  cases e with
  | save faults token => exact steady_save hapart hsteady faults token
  | clear faults => exact steady_clear hsteady faults
  | leftover s => exact (Prepares.alike hapart hsteady h).2

theorem load_after {e : TokenFileEvent} (hapart : t.Apart) (hsteady : f.Steady t.path)
    (h : t.Allows e) : t.load (t.after f e) = ((t.left? f e).map .ok).getD (t.load f) := by
  cases e with
  | save faults token =>
    rw [after, left?]
    split
    · next hok => exact load_of_save hok
    · next herror => exact load_of_save_error hapart hsteady herror
  | clear faults =>
    rw [after, left?]
    split
    · next hok => exact load_of_clear h hok
    · next herror =>
      rw [files_of_clear_error herror]
      rfl
  | leftover s => exact load_congr (Prepares.alike hapart hsteady h).1

theorem steady_run {events : List TokenFileEvent} (hapart : t.Apart)
    (hsteady : f.Steady t.path) (h : ∀ e ∈ events, t.Allows e) :
    (t.run f events).Steady t.path := by
  induction events generalizing f with
  | nil => exact hsteady
  | cons e rest ih =>
    obtain ⟨he, hrest⟩ := List.forall_mem_cons.1 h
    exact ih (steady_after hapart hsteady he) hrest

theorem load_run {events : List TokenFileEvent} (hapart : t.Apart) (hsteady : f.Steady t.path)
    (h : ∀ e ∈ events, t.Allows e) :
    t.load (t.run f events) = ((t.lastLeft? f events).map .ok).getD (t.load f) := by
  induction events generalizing f with
  | nil => rfl
  | cons e rest ih =>
    obtain ⟨he, hrest⟩ := List.forall_mem_cons.1 h
    have hlater := ih (steady_after hapart hsteady he) hrest
    rw [load_after hapart hsteady he] at hlater
    rw [lastLeft?]
    refine hlater.trans ?_
    cases t.lastLeft? (t.after f e) rest <;> rfl

/-- The token file is an atomic register. After any saves and clearings, whichever of their steps
failed, what is loaded is what the last success left, or else what was there at first. A save that
succeeds then leaves its token, one that fails leaves what is loaded as it is; a clearing that
succeeds leaves nothing, so that clearing again finds nothing to do, and one that fails leaves all
files as they are. -/
theorem atomic_register (t : TokenFile) (f : Files) (events : List TokenFileEvent)
    (hapart : t.Apart) (hsteady : f.Steady t.path) (hallowed : ∀ e ∈ events, t.Allows e) :
    let g := t.run f events
    t.load g = ((t.lastLeft? f events).map .ok).getD (t.load f) ∧
    (∀ faults token,
      ((t.save faults g token).2 = .ok () → t.load (t.save faults g token).1 = .ok (some token)) ∧
      ((t.save faults g token).2 ≠ .ok () → t.load (t.save faults g token).1 = t.load g)) ∧
    (∀ faults, faults (.remove t.path) ≠ some .notFound →
      ((t.clear faults g).2 = .ok () →
        let cleared := (t.clear faults g).1
        t.load cleared = .ok none ∧ ∀ again, (t.clear again cleared).1 = cleared ∧
          (again (.remove t.path) = none → (t.clear again cleared).2 = .ok ())) ∧
      ((t.clear faults g).2 ≠ .ok () → (t.clear faults g).1 = g)) := by
  have hsteadily := steady_run hapart hsteady hallowed
  refine ⟨load_run hapart hsteady hallowed, fun faults token => ⟨load_of_save, ?_⟩,
    fun faults hfault => ⟨fun hok => ⟨load_of_clear hfault hok, ?_⟩, files_of_clear_error⟩⟩
  · exact load_of_save_error hapart hsteadily
  · exact clear_of_remove (remove_of_clear hfault hok)

/-- A token that was saved outlives a save that fails when it renames, half a text in the sibling,
and a clearing that fails. -/
theorem saved_token_survives :
    let t : TokenFile := ⟨"d/token"⟩
    let token : BearerToken := ⟨"abc", by decide, by decide⟩
    let events : List TokenFileEvent :=
      [.save noFaults token,
        .save (fun s => if s = .rename t.sibling t.path then some .busy else none)
          ⟨"xyz", by decide, by decide⟩,
        .leftover (.write t.sibling [0xC3]),
        .clear fun _ => some .isDirectory]
    t.load empty = .ok none ∧ t.load (t.run empty events) = .ok (some token) := by
  intro t token events
  have hsteady : empty.Steady t.path :=
    .inr ⟨⟨3, [], ["d", "token"], ["work"], by decide +kernel, by decide +kernel,
      by unfold IsDown; decide +kernel, by decide +kernel⟩, isTree_empty⟩
  have hallowed : ∀ e ∈ events, t.Allows e := by
    simp [events, Allows, Prepares.write]
  have hload := (atomic_register t empty events (by decide +kernel) hsteady hallowed).1
  have hlast : t.lastLeft? empty events = some (some token) := by decide +kernel
  rw [hlast] at hload
  exact ⟨by decide +kernel, hload⟩

/-- Where the path goes up again behind a directory that is missing, a save that fails is seen: it
makes this directory, and a token comes to light that the path led to all along but for it. -/
theorem failed_save_uncovers_token :
    let t : TokenFile := ⟨"d/../token"⟩
    let f : Files := ⟨[(["work"], .directory), (["work", "token"], .file [0x61, 0x62, 0x63] false),
      (["work", "token.tmp"], .directory)], ["work"]⟩
    let saving := t.save noFaults f ⟨"xyz", by decide, by decide⟩
    t.Apart ∧ t.load f = .ok none ∧ saving.2 = .error (t.error .isDirectory) ∧
      t.load saving.1 = .ok (some ⟨"abc", by decide, by decide⟩) := by
  decide +kernel

end TokenFile

end OpsConsole
