import Mathlib.Data.List.Basic
import OpsConsole.Files.Path

/-!
# The names in a path

A path that is joined from names has these names. So the directory of a path has the names of the
path but the last, and a sibling of a path ends in another name in the same directory. Dots between
the names, and behind the last, make no difference to that.
-/

namespace OpsConsole.Files

open Text

variable {path : String} {absolute : Bool} {ns ms : List String}

/-- What may stand between the slashes of a path. -/
def IsName (n : String) : Prop := n ≠ "" ∧ '/' ∉ n.toList

theorem isName_of_mem_names {n : String} (h : n ∈ names path) : IsName n := by
  obtain ⟨cs, hcs, rfl⟩ := List.mem_map.1 h
  obtain ⟨hfield, hne⟩ := List.mem_filter.1 hcs
  refine ⟨by simpa using hne, fun hslash => ?_⟩
  rw [String.toList_ofList] at hslash
  have hnot := not_mem_of_mem_fields hfield '/' hslash
  simp at hnot

/-! ### Joining -/

/-- The names in a text. -/
def namesIn (cs : List Char) : List String :=
  ((fields (· == '/') cs).filter (!·.isEmpty)).map String.ofList

theorem namesIn_slash (cs : List Char) : namesIn ('/' :: cs) = namesIn cs := by
  simp [namesIn, fields]

theorem not_slash_of_isName {n : String} (h : IsName n) : ∀ c ∈ n.toList, (c == '/') = false := by
  intro c hc
  have hne : c ≠ '/' := fun he => h.2 (he ▸ hc)
  exact beq_eq_false_iff_ne.2 hne

theorem namesIn_name {n : String} (h : IsName n) : namesIn n.toList = [n] := by
  have hne : n.toList ≠ [] := by simpa using h.1
  rw [namesIn, fields_of_none (not_slash_of_isName h)]
  simp [h.1]

theorem namesIn_append {n : String} (h : IsName n) (cs : List Char) :
    namesIn (n.toList ++ '/' :: cs) = n :: namesIn cs := by
  rw [namesIn, fields_append_cons (not_slash_of_isName h) (by rfl)]
  simp [namesIn, h.1]

theorem namesIn_intercalate (h : ∀ n ∈ ns, IsName n) :
    namesIn (String.intercalate "/" ns).toList = ns := by
  induction ns with
  | nil => decide
  | cons n ns ih =>
    obtain ⟨hn, hns⟩ := List.forall_mem_cons.1 h
    cases ns with
    | nil => simpa using namesIn_name hn
    | cons m ns =>
      rw [String.intercalate_cons_cons]
      simpa [namesIn_append hn] using ih hns

theorem names_join (h : ∀ n ∈ ns, IsName n) : names (join absolute ns) = ns := by
  have hnames : names (join absolute ns) = namesIn (join absolute ns).toList := rfl
  rw [hnames, join]
  cases absolute with
  | false => simpa using namesIn_intercalate h
  | true => simpa [namesIn_slash] using namesIn_intercalate h

theorem head?_intercalate (h : ∀ n ∈ ns, IsName n) :
    (String.intercalate "/" ns).toList.head? ≠ some '/' := by
  cases ns with
  | nil => decide
  | cons n ns =>
    obtain ⟨hne, hslash⟩ := h n List.mem_cons_self
    have hstart : (String.intercalate "/" (n :: ns)).toList.head? = n.toList.head? := by
      cases ns with
      | nil => simp
      | cons m ns =>
        have hchars : n.toList ≠ [] := by simpa using hne
        rw [String.intercalate_cons_cons, String.toList_append, String.toList_append,
          List.append_assoc, List.head?_append_of_ne_nil _ hchars]
    rw [hstart]
    exact fun hhead => hslash (List.mem_of_mem_head? hhead)

theorem isAbsolute_join (h : ∀ n ∈ ns, IsName n) : isAbsolute (join absolute ns) = absolute := by
  rw [isAbsolute, join]
  cases absolute with
  | false => simpa using head?_intercalate h
  | true => simp

/-! ### Parts -/

/-- The names that are no dots. -/
def core (ns : List String) : List String := ns.filter (· ≠ ".")

theorem core_cons_dot (ns : List String) : core ("." :: ns) = core ns := by
  simp [core]

theorem core_cons {n : String} (h : n ≠ ".") (ns : List String) :
    core (n :: ns) = n :: core ns := by
  simp [core, h]

theorem core_append (ns ms : List String) : core (ns ++ ms) = core ns ++ core ms :=
  List.filter_append ..

/-- The names that count among those of a path. -/
def counting (absolute : Bool) : List String → List String
  | [] => []
  | n :: rest => (if n = "." ∧ absolute then [] else [n]) ++ core rest

theorem parts_eq_counting (path : String) :
    parts path = counting (isAbsolute path) (names path) := by
  rw [parts]
  cases names path <;> rfl

theorem counting_sublist (absolute : Bool) (ns : List String) :
    (counting absolute ns).Sublist ns := by
  cases ns with
  | nil => exact .slnil
  | cons n rest =>
    have hrest : (core rest).Sublist rest := List.filter_sublist
    rw [counting]
    split
    · exact hrest.cons n
    · exact hrest.cons_cons n

theorem core_core (ns : List String) : core (core ns) = core ns := by
  simp [core]

theorem core_counting (absolute : Bool) (ns : List String) :
    core (counting absolute ns) = core ns := by
  cases ns with
  | nil => rfl
  | cons n rest =>
    rw [counting, core_append, core_core]
    by_cases hn : n = "."
    · subst hn
      split <;> simp [core]
    · rw [if_neg (fun h => hn h.1), core_cons hn, core_cons hn]
      rfl

theorem counting_core (absolute : Bool) (ns : List String) :
    counting absolute (core ns) = core ns := by
  cases hns : core ns with
  | nil => rfl
  | cons n rest =>
    have hmem : n ∈ core ns := by rw [hns]; exact List.mem_cons_self
    have hn : n ≠ "." := by simpa using (List.mem_filter.1 hmem).2
    have hcore : core (n :: rest) = n :: rest := by rw [← hns, core_core]
    rw [core_cons hn] at hcore
    rwa [counting, if_neg (fun h => hn h.1)]

theorem counting_counting (absolute : Bool) (ns : List String) :
    counting absolute (counting absolute ns) = counting absolute ns := by
  cases ns with
  | nil => rfl
  | cons n rest =>
    rw [counting]
    split
    · exact counting_core absolute rest
    · next hn =>
      rw [List.singleton_append, counting, if_neg hn, core_core]
      rfl

theorem isName_of_mem_parts {n : String} (h : n ∈ parts path) : IsName n := by
  rw [parts_eq_counting] at h
  exact isName_of_mem_names ((counting_sublist _ _).subset h)

theorem parts_join_parts (path : String) :
    parts (join (isAbsolute path) (parts path)) = parts path := by
  have hname : ∀ n ∈ parts path, IsName n := fun n => isName_of_mem_parts
  rw [parts_eq_counting (join _ _), isAbsolute_join hname, names_join hname, parts_eq_counting,
    counting_counting]

/-! ### Directories -/

/-- A path to a directory above a path. -/
def Above (path dir : String) : Prop :=
  names dir <+: directoryParts path ∧ isAbsolute dir = isAbsolute path

theorem isName_of_mem_directoryParts {n : String} (h : n ∈ directoryParts path) : IsName n :=
  isName_of_mem_parts ((List.dropLast_sublist _).subset h)

theorem above_join (h : ns <+: directoryParts path) : Above path (join (isAbsolute path) ns) := by
  have hname : ∀ n ∈ ns, IsName n := fun n hn => isName_of_mem_directoryParts (h.subset hn)
  exact ⟨by rwa [names_join hname], isAbsolute_join hname⟩

theorem above_directory (path : String) : Above path (directory path) :=
  above_join List.prefix_rfl

theorem prefix_of_mem_ascending (h : ns ∈ ascending ms) : ns <+: ms := by
  induction ms generalizing ns with
  | nil => cases h
  | cons m ms ih =>
    rcases List.mem_append.1 h with h | h
    · obtain ⟨rest, hrest, rfl⟩ := List.mem_map.1 h
      exact List.cons_prefix_cons.2 ⟨rfl, ih hrest⟩
    · rw [List.mem_singleton.1 h]
      exact List.cons_prefix_cons.2 ⟨rfl, List.nil_prefix⟩

theorem above_of_mem_directories {dir : String} (h : dir ∈ directories path) : Above path dir := by
  obtain ⟨ns, hns, rfl⟩ := List.mem_map.1 h
  exact above_join (prefix_of_mem_ascending hns)

theorem Above.core_names {dir : String} (h : Above path dir) :
    core (names dir) <+: core (directoryParts path) :=
  h.1.filter _

theorem core_parts (path : String) : core (parts path) = core (names path) := by
  rw [parts_eq_counting, core_counting]

theorem Above.trans_mem {dir above : String} (h : Above path dir)
    (hmem : above ∈ dir :: directories dir) :
    core (names above) <+: core (directoryParts path) ∧
      isAbsolute above = isAbsolute path := by
  rcases List.mem_cons.1 hmem with rfl | hmem
  · exact ⟨h.core_names, h.2⟩
  · have habove := above_of_mem_directories hmem
    have hparts : core (directoryParts dir) <+: core (parts dir) :=
      List.IsPrefix.filter _ <| List.dropLast_prefix _
    rw [core_parts] at hparts
    exact ⟨habove.core_names.trans (hparts.trans h.core_names), habove.2.trans h.2⟩

/-! ### Siblings -/

/-- A name that leads on from a directory to something in it. -/
def IsProper (n : String) : Prop := n ≠ "." ∧ n ≠ ".."

/-- Two paths that lead to different names in one directory; dots may follow the first name. -/
inductive Beside (path sibling : String) : Prop
  | intro (way dots : List String) (name other : String)
    (hpath : names path = way ++ name :: dots) (hdots : ∀ d ∈ dots, d = ".")
    (hsibling : names sibling = directoryParts path ++ [other])
    (hway : core way = core (directoryParts path)) (hname : IsProper name)
    (hother : IsProper other) (hne : name ≠ other)
    (habsolute : isAbsolute sibling = isAbsolute path)

theorem Beside.core_names {sibling : String} (h : Beside path sibling) :
    ∃ name, core (names path) = core (directoryParts path) ++ [name] := by
  obtain ⟨way, dots, name, other, hpath, hdots, -, hway, hname, -, -, -⟩ := h
  have hend : core dots = [] := List.filter_eq_nil_iff.2 (by simpa using hdots)
  exact ⟨name, by rw [hpath, core_append, core_cons hname.1, hway, hend]⟩

theorem mem_of_cutLast? {α : Type} {p : α → Bool} {cs before after : List α}
    (h : cutLast? p cs = some (before, after)) : ∀ c ∈ before, c ∈ cs := by
  induction cs generalizing before with
  | nil => cases h
  | cons c cs ih =>
    rw [cutLast?] at h
    split at h
    · next before' after' hrest =>
      cases h
      exact List.forall_mem_cons.2 ⟨List.mem_cons_self,
        fun d hd => List.mem_cons_of_mem c (ih hrest d hd)⟩
    · split at h
      · cases h
        simp
      · cases h

theorem slash_not_mem_stem {n : String} (h : '/' ∉ n.toList) : '/' ∉ (stem n).toList := by
  rw [stem]
  split
  · exact h
  · exact h
  · next before after hne hcut =>
    rw [String.toList_ofList]
    exact fun hslash => h (mem_of_cutLast? hcut '/' hslash)

/-- The name of the sibling of a file. -/
def siblingName (n : String) : String := stem n ++ "." ++ "tmp"

theorem getLast?_siblingName (n : String) : (siblingName n).toList.getLast? = some 'p' := by
  simp [siblingName]

theorem isProper_siblingName (n : String) : IsProper (siblingName n) := by
  constructor <;> intro h <;>
    · have hlast := getLast?_siblingName n
      rw [h] at hlast
      exact absurd hlast (by decide)

theorem isName_siblingName {n : String} (h : IsName n) : IsName (siblingName n) := by
  constructor
  · intro hempty
    have hlast := getLast?_siblingName n
    rw [hempty] at hlast
    exact absurd hlast (by decide)
  · simpa [siblingName] using slash_not_mem_stem h.2

theorem withExtension_cases (path : String) :
    withExtension path "tmp" = path ∨
    ∃ n, (parts path).getLast? = some n ∧ IsProper n ∧
      withExtension path "tmp" =
        join (isAbsolute path) (directoryParts path ++ [siblingName n]) := by
  rw [withExtension]
  split
  · exact .inl rfl
  · exact .inl rfl
  · exact .inl rfl
  · next name hdot hdots hlast => exact .inr ⟨name, hlast, ⟨hdot, hdots⟩, rfl⟩

theorem beside_sibling (h : parts (withExtension path "tmp") ≠ parts path) :
    Beside path (withExtension path "tmp") := by
  rcases withExtension_cases path with hsame | ⟨name, hlast, hname, hjoin⟩
  · exact absurd (by rw [hsame]) h
  have hparts : parts path = directoryParts path ++ [name] :=
    (List.dropLast_append_getLast? name hlast).symm
  have hproper : IsName name := isName_of_mem_parts (List.mem_of_getLast? hlast)
  have hvalid : ∀ n ∈ directoryParts path ++ [siblingName name], IsName n :=
    List.forall_mem_append.2 ⟨fun n => isName_of_mem_directoryParts,
      List.forall_mem_singleton.2 (isName_siblingName hproper)⟩
  have hne : name ≠ siblingName name := by
    intro hsame
    rw [hjoin, ← hsame, ← hparts, parts_join_parts] at h
    exact h rfl
  -- Among all names of the path, dots may stand before and behind the last one that counts.
  have hcore : core (names path) = core (directoryParts path) ++ [name] := by
    rw [← core_parts, hparts, core_append]
    simp [core, hname.1]
  obtain ⟨before, after, hnames, hbefore, hafter⟩ := List.filter_eq_append_iff.1 hcore
  obtain ⟨between, dots, rfl, hbetween, -, hdots⟩ := List.filter_eq_cons_iff.1 hafter
  refine .intro (before ++ between) dots name (siblingName name) (by simp [hnames]) ?_ ?_ ?_ hname
    (isProper_siblingName name) hne ?_
  · simpa using hdots
  · rw [hjoin, names_join hvalid]
  · rw [core_append, core, core, hbefore, List.filter_eq_nil_iff.2 (by simpa using hbetween),
      List.append_nil]
  · rw [hjoin, isAbsolute_join hvalid]

end OpsConsole.Files
