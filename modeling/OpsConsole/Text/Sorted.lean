/-!
# Sorted sets and maps of texts

A `TextSet` keeps its members in increasing order, each once, so two sets with the same members
are equal. A `TextMap` keeps its entries in increasing order of their keys, each key once. The
order is that of the characters' code points. Each operation is described by `mem_` lemmas for
sets and `get?_` lemmas for maps.
-/

namespace OpsConsole

structure TextSet where
  items : List String
  sorted : items.Pairwise (· < ·)
  deriving DecidableEq

namespace TextSet

theorem lt_of_not {a b : String} (h : ¬ a < b) (h' : a ≠ b) : b < a :=
  Decidable.byContradiction fun hb =>
    h' (String.le_antisymm (String.not_lt.1 hb) (String.not_lt.1 h))

def place (a : String) : List String → List String
  | [] => [a]
  | b :: r => if a < b then a :: b :: r else if a = b then b :: r else b :: place a r

theorem mem_place {a x : String} {items : List String} :
    x ∈ place a items ↔ x = a ∨ x ∈ items := by
  induction items with
  | nil => simp [place]
  | cons b r ih =>
    simp only [place]
    split
    · simp
    · split
      · next h => subst h; simp
      · simp only [List.mem_cons, ih]; grind

theorem sorted_place {a : String} {items : List String} (h : items.Pairwise (· < ·)) :
    (place a items).Pairwise (· < ·) := by
  induction items with
  | nil => simp [place]
  | cons b r ih =>
    obtain ⟨hb, hr⟩ := List.pairwise_cons.1 h
    simp only [place]
    split
    · next hab =>
      exact List.pairwise_cons.2 ⟨fun x hx => by
        rcases List.mem_cons.1 hx with rfl | hx
        · exact hab
        · exact String.lt_trans hab (hb x hx), h⟩
    · next hab =>
      split
      · exact h
      · next hne =>
        refine List.pairwise_cons.2 ⟨fun x hx => ?_, ih hr⟩
        rcases mem_place.1 hx with rfl | hx
        · exact lt_of_not hab hne
        · exact hb x hx

def empty : TextSet := ⟨[], .nil⟩

instance : EmptyCollection TextSet := ⟨empty⟩

instance : Inhabited TextSet := ⟨empty⟩

instance : Membership String TextSet := ⟨fun s a => a ∈ s.items⟩

instance (s : TextSet) (a : String) : Decidable (a ∈ s) :=
  inferInstanceAs (Decidable (a ∈ s.items))

def insert (s : TextSet) (a : String) : TextSet :=
  ⟨place a s.items, sorted_place s.sorted⟩

def erase (s : TextSet) (a : String) : TextSet :=
  ⟨s.items.filter (· ≠ a), s.sorted.filter _⟩

def ofList (items : List String) : TextSet :=
  items.foldl insert ∅

@[simp] theorem not_mem_empty (a : String) : a ∉ (∅ : TextSet) := by
  intro h; cases h

@[simp] theorem mem_insert {s : TextSet} {a x : String} : x ∈ s.insert a ↔ x = a ∨ x ∈ s :=
  mem_place

@[simp] theorem mem_erase {s : TextSet} {a x : String} : x ∈ s.erase a ↔ x ∈ s ∧ x ≠ a := by
  show x ∈ s.items.filter (· ≠ a) ↔ x ∈ s.items ∧ x ≠ a
  simp

theorem mem_foldl_insert {items : List String} {s : TextSet} {x : String} :
    x ∈ items.foldl insert s ↔ x ∈ s ∨ x ∈ items := by
  induction items generalizing s with
  | nil => simp
  | cons a r ih => simp only [List.foldl_cons, ih, mem_insert, List.mem_cons]; grind

@[simp] theorem mem_ofList {items : List String} {x : String} : x ∈ ofList items ↔ x ∈ items := by
  simp [ofList, mem_foldl_insert]

theorem eq_of_same_members {a b : List String} (ha : a.Pairwise (· < ·)) (hb : b.Pairwise (· < ·))
    (h : ∀ x, x ∈ a ↔ x ∈ b) : a = b := by
  induction a generalizing b with
  | nil =>
    cases b with
    | nil => rfl
    | cons y t => exact absurd ((h y).2 (by simp)) (by simp)
  | cons x r ih =>
    cases b with
    | nil => exact absurd ((h x).1 (by simp)) (by simp)
    | cons y t =>
      obtain ⟨hx, hr⟩ := List.pairwise_cons.1 ha
      obtain ⟨hy, ht⟩ := List.pairwise_cons.1 hb
      have hxy : x = y := by
        rcases List.mem_cons.1 ((h x).1 (by simp)) with e | hm
        · exact e
        · rcases List.mem_cons.1 ((h y).2 (by simp)) with e | hm'
          · exact e.symm
          · exact absurd (String.lt_trans (hy x hm) (hx y hm')) (String.lt_irrefl _)
      subst hxy
      congr 1
      refine ih hr ht fun z => ?_
      constructor
      · intro hz
        rcases List.mem_cons.1 ((h z).1 (List.mem_cons_of_mem _ hz)) with e | hm
        · exact absurd (e ▸ hx z hz) (String.lt_irrefl _)
        · exact hm
      · intro hz
        rcases List.mem_cons.1 ((h z).2 (List.mem_cons_of_mem _ hz)) with e | hm
        · exact absurd (e ▸ hy z hz) (String.lt_irrefl _)
        · exact hm

@[ext] theorem ext {s t : TextSet} (h : ∀ x, x ∈ s ↔ x ∈ t) : s = t := by
  cases s; cases t
  congr 1
  exact eq_of_same_members ‹_› ‹_› h

@[simp] theorem ofList_items (s : TextSet) : ofList s.items = s := by
  ext x; simp; rfl

end TextSet

structure TextMap (α : Type) where
  entries : List (String × α)
  sorted : (entries.map (·.1)).Pairwise (· < ·)
  deriving DecidableEq

namespace TextMap

variable {α : Type}

/-- Puts `f` of the old value, if any, under a key. -/
def place (k : String) (f : Option α → α) : List (String × α) → List (String × α)
  | [] => [(k, f none)]
  | e :: r =>
    if k < e.1 then (k, f none) :: e :: r
    else if k = e.1 then (k, f (some e.2)) :: r
    else e :: place k f r

theorem keys_place (k : String) (f : Option α → α) (entries : List (String × α)) :
    (place k f entries).map (·.1) = TextSet.place k (entries.map (·.1)) := by
  induction entries with
  | nil => rfl
  | cons e r ih =>
    simp only [place, TextSet.place, List.map_cons]
    split
    · rfl
    · split
      · next h => simp [h]
      · simp [ih]

def empty : TextMap α := ⟨[], .nil⟩

instance : EmptyCollection (TextMap α) := ⟨empty⟩

instance : Inhabited (TextMap α) := ⟨empty⟩

def get? (m : TextMap α) (k : String) : Option α :=
  (m.entries.find? (·.1 == k)).map (·.2)

/-- Replaces the value under a key by `f` of it, also when there is none yet. -/
def update (m : TextMap α) (k : String) (f : Option α → α) : TextMap α :=
  ⟨place k f m.entries, by rw [keys_place]; exact TextSet.sorted_place m.sorted⟩

def erase (m : TextMap α) (k : String) : TextMap α :=
  ⟨m.entries.filter (·.1 != k),
    m.sorted.sublist (List.filter_sublist.map _)⟩

def keys (m : TextMap α) : List String :=
  m.entries.map (·.1)

def isEmpty (m : TextMap α) : Bool :=
  m.entries.isEmpty

def contains (m : TextMap α) (k : String) : Bool :=
  (m.get? k).isSome

@[simp] theorem get?_empty (k : String) : (∅ : TextMap α).get? k = none := rfl

theorem mem_keys_iff {m : TextMap α} {k : String} : k ∈ m.keys ↔ ∃ a, m.get? k = some a := by
  rw [← Option.isSome_iff_exists, get?, Option.isSome_map, List.find?_isSome, keys, List.mem_map]
  simp only [beq_iff_eq]

theorem isEmpty_iff {m : TextMap α} : m.isEmpty = true ↔ ∀ k, m.get? k = none := by
  constructor
  · intro h k
    rw [get?, List.isEmpty_iff.1 h]
    rfl
  · intro h
    rw [isEmpty, List.isEmpty_iff, List.eq_nil_iff_forall_not_mem]
    intro e he
    have hkey : e.1 ∈ m.keys := List.mem_map_of_mem he
    obtain ⟨a, ha⟩ := mem_keys_iff.1 hkey
    rw [h e.1] at ha
    cases ha

theorem find?_eq_none_of_lt {k : String} {entries : List (String × α)}
    (h : ∀ x ∈ entries.map (·.1), k < x) : entries.find? (·.1 == k) = none := by
  rw [List.find?_eq_none]
  intro e he
  have := h e.1 (List.mem_map_of_mem he)
  simp only [beq_iff_eq]
  intro e'
  exact String.lt_irrefl _ (e' ▸ this)

theorem find?_place {k : String} {f : Option α → α} {entries : List (String × α)}
    (hs : (entries.map (·.1)).Pairwise (· < ·)) (k' : String) :
    ((place k f entries).find? (·.1 == k')).map (·.2) =
      if k' = k then some (f ((entries.find? (·.1 == k)).map (·.2)))
      else (entries.find? (·.1 == k')).map (·.2) := by
  induction entries with
  | nil =>
    by_cases h : k' = k
    · simp [place, h]
    · have : (k == k') = false := by simpa using fun e => h e.symm
      simp [place, h, this]
  | cons e r ih =>
    obtain ⟨he, hr⟩ := List.pairwise_cons.1 hs
    simp only [place]
    split
    · next hk =>
      have hn : (e :: r).find? (·.1 == k) = none := find?_eq_none_of_lt fun x hx => by
        rcases List.mem_cons.1 hx with rfl | hx
        · exact hk
        · exact String.lt_trans hk (he x hx)
      rw [hn, List.find?_cons]
      by_cases h : k' = k
      · simp [h]
      · have : (k == k') = false := by simpa using fun e => h e.symm
        simp [h, this]
    · split
      · next hk =>
        subst hk
        by_cases h : k' = e.1
        · simp [h]
        · have : (e.1 == k') = false := by simpa using fun e' => h e'.symm
          simp [h, this]
      · next hk =>
        rw [List.find?_cons, List.find?_cons, List.find?_cons]
        have hke : (e.1 == k) = false := by simpa using fun e' => hk e'.symm
        rw [hke]
        by_cases h : e.1 = k'
        · have : k' ≠ k := fun e' => hk (h.trans e').symm
          simp [h, this]
        · have h' : (e.1 == k') = false := by simpa using h
          rw [h']
          exact ih hr

@[simp] theorem get?_update (m : TextMap α) (k k' : String) (f : Option α → α) :
    (m.update k f).get? k' = if k' = k then some (f (m.get? k)) else m.get? k' :=
  find?_place m.sorted k'

@[simp] theorem get?_erase (m : TextMap α) (k k' : String) :
    (m.erase k).get? k' = if k' = k then none else m.get? k' := by
  simp only [get?, erase, List.find?_filter]
  split
  · next h => subst h; simp
  · next h =>
    congr 2
    funext e
    by_cases hk : e.1 = k'
    · simp [hk, h]
    · simp [hk]

end TextMap

end OpsConsole
