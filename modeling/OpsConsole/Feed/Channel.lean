/-!
# Channels

A channel holds the most recent items of one kind, at most as many as its retention allows. An
ingest beyond that evicts the oldest item, which is the new one itself when nothing may be held.
The retentions differ in the order in which the items are stored and listed; what they keep is the
same.
-/

namespace OpsConsole

inductive Retention
  | slidingWindow (capacity : Nat)
  | newestFirst (capacity : Nat)
  | latest
  deriving DecidableEq, Inhabited

namespace Retention

def capacity : Retention → Nat
  | slidingWindow n | newestFirst n => n
  | latest => 1

/-- How a list that is kept in storage order takes in one more item, and what makes room for it. -/
def store {α : Type} (r : Retention) (stored : List α) (a : α) : List α × Option α :=
  match r with
  | slidingWindow n =>
    if n < stored.length + 1 then ((stored ++ [a]).tail, (stored ++ [a]).head?)
    else (stored ++ [a], none)
  | newestFirst n =>
    if n < stored.length + 1 then ((a :: stored).dropLast, (a :: stored).getLast?)
    else (a :: stored, none)
  | latest => (stored.tail ++ [a], stored.head?)

end Retention

structure Channel (retention : Retention) (α : Type) where
  /-- The items from the newest to the oldest. -/
  held : List α
  bounded : held.length ≤ retention.capacity
  deriving DecidableEq

namespace Channel

variable {r : Retention} {α : Type}

def empty : Channel r α := ⟨[], Nat.zero_le _⟩

instance : EmptyCollection (Channel r α) := ⟨empty⟩

instance : Inhabited (Channel r α) := ⟨empty⟩

@[ext] theorem ext {c d : Channel r α} (h : c.held = d.held) : c = d := by
  cases c; cases d; cases h; rfl

def size (c : Channel r α) : Nat := c.held.length

def isEmpty (c : Channel r α) : Bool := c.held.isEmpty

def items (c : Channel r α) : List α :=
  match r with
  | .newestFirst _ => c.held
  | .slidingWindow _ | .latest => c.held.reverse

def newest? (c : Channel r α) : Option α := c.held.head?

def ingest (c : Channel r α) (a : α) : Channel r α :=
  ⟨(a :: c.held).take r.capacity, List.length_take_le _ _⟩

/-- What the ingest of an item evicts. -/
def evicted? (c : Channel r α) (a : α) : Option α := (a :: c.held)[r.capacity]?

def retain (c : Channel r α) (keep : α → Bool) : Channel r α :=
  ⟨c.held.filter keep, Nat.le_trans (List.length_filter_le _ _) c.bounded⟩

def removed (c : Channel r α) (keep : α → Bool) : Nat := c.size - (c.retain keep).size

@[simp] theorem held_empty : (∅ : Channel r α).held = [] := rfl

@[simp] theorem held_ingest (c : Channel r α) (a : α) :
    (c.ingest a).held = (a :: c.held).take r.capacity := rfl

@[simp] theorem held_retain (c : Channel r α) (keep : α → Bool) :
    (c.retain keep).held = c.held.filter keep := rfl

theorem removed_eq_countP (c : Channel r α) (keep : α → Bool) :
    c.removed keep = c.held.countP (! keep ·) := by
  have h := List.length_eq_countP_add_countP keep (l := c.held)
  simp only [removed, size, held_retain, ← List.countP_eq_length_filter]
  have e : c.held.countP (fun a => decide ¬ keep a = true) = c.held.countP (! keep ·) := by
    congr 1; funext a; simp
  omega

variable {c : Channel r α} (a : α)

theorem size_lt_or_eq (c : Channel r α) : c.size < r.capacity ∨ c.size = r.capacity :=
  Nat.lt_or_eq_of_le c.bounded

theorem held_ingest_of_room (h : c.size < r.capacity) : (c.ingest a).held = a :: c.held :=
  List.take_of_length_le h

theorem evicted?_of_room (h : c.size < r.capacity) : c.evicted? a = none :=
  List.getElem?_eq_none h

theorem held_ingest_of_full (h : c.size = r.capacity) :
    (c.ingest a).held = (a :: c.held).dropLast := by
  rw [held_ingest, ← h, List.dropLast_eq_take]
  rfl

theorem evicted?_of_full (h : c.size = r.capacity) : c.evicted? a = (a :: c.held).getLast? := by
  rw [evicted?, ← h, List.getLast?_eq_getElem?]
  rfl

/-- A channel takes in an item as its list in storage order does. -/
theorem store_items (c : Channel r α) (a : α) :
    r.store c.items a = ((c.ingest a).items, c.evicted? a) := by
  obtain hroom | hfull := c.size_lt_or_eq
  · have hheld := held_ingest_of_room a hroom
    rw [evicted?_of_room a hroom]
    cases r with
    | slidingWindow n =>
      have hlength : ¬ n < c.held.reverse.length + 1 := by
        rw [List.length_reverse]
        exact Nat.not_lt.2 hroom
      simp only [items, hheld, List.reverse_cons]
      exact if_neg hlength
    | newestFirst n =>
      have hlength : ¬ n < c.held.length + 1 := Nat.not_lt.2 hroom
      simp only [items, hheld]
      exact if_neg hlength
    | latest =>
      have hnil : c.held = [] := List.length_eq_zero_iff.1 (Nat.lt_one_iff.1 hroom)
      simp only [items, hheld, hnil]
      rfl
  · have hheld := held_ingest_of_full a hfull
    rw [evicted?_of_full a hfull]
    cases r with
    | slidingWindow n =>
      have hlength : n < c.held.reverse.length + 1 := by
        rw [List.length_reverse]
        exact Nat.lt_succ_of_le (Nat.le_of_eq hfull.symm)
      simp only [items, hheld]
      rw [← List.tail_reverse, ← List.head?_reverse, List.reverse_cons]
      exact if_pos hlength
    | newestFirst n =>
      have hlength : n < c.held.length + 1 := Nat.lt_succ_of_le (Nat.le_of_eq hfull.symm)
      simp only [items, hheld]
      exact if_pos hlength
    | latest =>
      obtain ⟨b, hb⟩ := List.length_eq_one_iff.1 hfull
      simp only [items, hheld, hb]
      rfl

end Channel

end OpsConsole
