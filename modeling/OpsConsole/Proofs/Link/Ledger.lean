import OpsConsole.Link.Connection

/-!
# The ledger of links and timers

A mark is what can be seen from outside of a connection's links and timers: a call, or the running
out of the timer that is waited for. A ledger enters marks one by one and keeps what is held:
nothing, one link or one timer. It takes no mark that is out of place, such as a second link, an
end of what is not held, or a number out of turn.

The marks that a ledger takes are numbered in order, and each link or timer ends with the mark
after the one it began with, unless it is still held. So nothing is held in the end exactly when
all brackets are closed.
-/

namespace OpsConsole

inductive Holding
  | nothing
  | link (n : Nat)
  | timer (n : Nat)
  deriving DecidableEq

namespace Holding

def link? : Holding → Option Nat
  | link n => some n
  | _ => none

def timer? : Holding → Option Nat
  | timer n => some n
  | _ => none

end Holding

inductive Mark
  | call (c : Call)
  | ranOut (timer : Nat)
  deriving DecidableEq

namespace Mark

def call? : Mark → Option Call
  | call c => some c
  | ranOut _ => none

def opened? : Mark → Option Nat
  | call (.openLink n _) => some n
  | _ => none

def closed? : Mark → Option Nat
  | call (.closeLink n) => some n
  | _ => none

def scheduled? : Mark → Option Nat
  | call (.schedule n _) => some n
  | _ => none

/-- A timer ends by being cancelled or by running out. -/
def ended? : Mark → Option Nat
  | call (.cancel n) | ranOut n => some n
  | _ => none

/-- What a mark begins. -/
def begun? : Mark → Option Holding
  | call (.openLink n _) => some (.link n)
  | call (.schedule n _) => some (.timer n)
  | _ => none

/-- What a mark ends. -/
def over? : Mark → Option Holding
  | call (.closeLink n) => some (.link n)
  | call (.cancel n) | ranOut n => some (.timer n)
  | _ => none

theorem begun?_ne_nothing (m : Mark) : m.begun? ≠ some .nothing := by
  rcases m with (_ | _ | _ | _) | _ <;> exact nofun

theorem eq_of_over?_link {m : Mark} {n : Nat} (h : m.over? = some (.link n)) :
    m = .call (.closeLink n) := by
  rcases m with (_ | _ | _ | _) | _ <;> cases h
  rfl

theorem eq_or_of_over?_timer {m : Mark} {n : Nat} (h : m.over? = some (.timer n)) :
    m = .call (.cancel n) ∨ m = .ranOut n := by
  rcases m with (_ | _ | _ | _) | _ <;> cases h
  · exact .inl rfl
  · exact .inr rfl

end Mark

/-- A link that was opened and not closed. -/
def LinkUp (marks : List Mark) (n : Nat) : Prop :=
  n ∈ marks.filterMap Mark.opened? ∧ n ∉ marks.filterMap Mark.closed?

/-- A timer that was scheduled and neither cancelled nor run out. -/
def TimerSet (marks : List Mark) (n : Nat) : Prop :=
  n ∈ marks.filterMap Mark.scheduled? ∧ n ∉ marks.filterMap Mark.ended?

/-- Links and timers are numbered from one in order, each ends once, and nothing comes between
a beginning and its end. -/
structure Bracketed (marks : List Mark) : Prop where
  opened : marks.filterMap Mark.opened? = List.range' 1 (marks.filterMap Mark.opened?).length
  closed : marks.filterMap Mark.closed? = marks.filterMap Mark.opened?
  scheduled :
    marks.filterMap Mark.scheduled? = List.range' 1 (marks.filterMap Mark.scheduled?).length
  ended : marks.filterMap Mark.ended? = marks.filterMap Mark.scheduled?
  closed_next : ∀ i n token, marks[i]? = some (.call (.openLink n token)) →
    marks[i + 1]? = some (.call (.closeLink n))
  ended_next : ∀ i n delay, marks[i]? = some (.call (.schedule n delay)) →
    marks[i + 1]? = some (.call (.cancel n)) ∨ marks[i + 1]? = some (.ranOut n)

structure Ledger where
  links : Nat
  timers : Nat
  holding : Holding

namespace Ledger

def start : Ledger := ⟨0, 0, .nothing⟩

def enter (l : Ledger) : Mark → Option Ledger
  | .call (.openLink n _) =>
    if l.holding = .nothing ∧ n = l.links + 1 then some ⟨n, l.timers, .link n⟩ else none
  | .call (.closeLink n) =>
    if l.holding = .link n then some ⟨l.links, l.timers, .nothing⟩ else none
  | .call (.schedule n _) =>
    if l.holding = .nothing ∧ n = l.timers + 1 then some ⟨l.links, n, .timer n⟩ else none
  | .call (.cancel n) | .ranOut n =>
    if l.holding = .timer n then some ⟨l.links, l.timers, .nothing⟩ else none

def enterAll (l : Ledger) : List Mark → Option Ledger
  | [] => some l
  | m :: rest => (l.enter m).bind fun l => enterAll l rest

@[simp] theorem enterAll_nil (l : Ledger) : l.enterAll [] = some l := rfl

@[simp] theorem enterAll_cons (l : Ledger) (m : Mark) (rest : List Mark) :
    l.enterAll (m :: rest) = (l.enter m).bind fun l => enterAll l rest := rfl

theorem enterAll_append (l : Ledger) (a b : List Mark) :
    l.enterAll (a ++ b) = (l.enterAll a).bind fun l => l.enterAll b := by
  induction a generalizing l with
  | nil => rfl
  | cons m r ih =>
    rw [List.cons_append, enterAll_cons, enterAll_cons, Option.bind_assoc]
    exact congrArg _ (funext ih)

/-- What a ledger says about the marks it took. -/
structure Describes (l : Ledger) (marks : List Mark) : Prop where
  opened : marks.filterMap Mark.opened? = List.range' 1 l.links
  closed : marks.filterMap Mark.closed? ++ l.holding.link?.toList = List.range' 1 l.links
  scheduled : marks.filterMap Mark.scheduled? = List.range' 1 l.timers
  ended : marks.filterMap Mark.ended? ++ l.holding.timer?.toList = List.range' 1 l.timers
  next : ∀ i a b, marks[i]? = some a → a.begun? = some b →
    (∃ e, marks[i + 1]? = some e ∧ e.over? = some b) ∨ (i + 1 = marks.length ∧ l.holding = b)

theorem describes_start : start.Describes [] := by
  constructor <;> simp [start, Holding.link?, Holding.timer?]

/-- The ways in which a mark can be entered. -/
inductive Entry (l : Ledger) : Mark → Ledger → Prop
  | openLink (token : BearerToken) (free : l.holding = .nothing) :
    Entry l (.call (.openLink (l.links + 1) token)) ⟨l.links + 1, l.timers, .link (l.links + 1)⟩
  | closeLink (n : Nat) (held : l.holding = .link n) :
    Entry l (.call (.closeLink n)) ⟨l.links, l.timers, .nothing⟩
  | schedule (delay : Nat) (free : l.holding = .nothing) :
    Entry l (.call (.schedule (l.timers + 1) delay))
      ⟨l.links, l.timers + 1, .timer (l.timers + 1)⟩
  | cancel (n : Nat) (held : l.holding = .timer n) :
    Entry l (.call (.cancel n)) ⟨l.links, l.timers, .nothing⟩
  | ranOut (n : Nat) (held : l.holding = .timer n) :
    Entry l (.ranOut n) ⟨l.links, l.timers, .nothing⟩

theorem entry_of_enter {l l' : Ledger} {m : Mark} (he : l.enter m = some l') : l.Entry m l' := by
  rcases m with (⟨n, token⟩ | n | ⟨n, delay⟩ | n) | n <;>
    simp only [enter, Option.ite_none_right_eq_some, Option.some.injEq] at he <;>
    obtain ⟨held, rfl⟩ := he
  · obtain ⟨free, rfl⟩ := held
    exact .openLink token free
  · exact .closeLink n held
  · obtain ⟨free, rfl⟩ := held
    exact .schedule delay free
  · exact .cancel n held
  · exact .ranOut n held

theorem over?_of_enter {l l' : Ledger} {m : Mark} (he : l.enter m = some l')
    (hl : l.holding ≠ .nothing) : m.over? = some l.holding := by
  cases entry_of_enter he with
  | openLink _ free | schedule _ free => exact (hl free).elim
  | closeLink n held | cancel n held | ranOut n held => exact congrArg some held.symm

theorem holding_of_begun? {l l' : Ledger} {m : Mark} {b : Holding} (he : l.enter m = some l')
    (hb : m.begun? = some b) : l'.holding = b := by
  cases entry_of_enter he <;> cases hb <;> rfl

theorem le_of_enter {l l' : Ledger} {m : Mark} (he : l.enter m = some l') :
    l.links ≤ l'.links ∧ l.timers ≤ l'.timers := by
  cases entry_of_enter he <;> exact ⟨by simp, by simp⟩

theorem le_of_enterAll {l l' : Ledger} {marks : List Mark} (he : l.enterAll marks = some l') :
    l.links ≤ l'.links ∧ l.timers ≤ l'.timers := by
  induction marks generalizing l with
  | nil =>
    cases he
    exact ⟨Nat.le_refl _, Nat.le_refl _⟩
  | cons m rest ih =>
    obtain ⟨next, hm, hrest⟩ := Option.bind_eq_some_iff.1 he
    have hstep := le_of_enter hm
    have hlater := ih hrest
    exact ⟨Nat.le_trans hstep.1 hlater.1, Nat.le_trans hstep.2 hlater.2⟩

namespace Describes

variable {l l' : Ledger} {marks : List Mark} {m : Mark}

/-- A mark before the end is followed as it was, the last one by the mark just entered. -/
theorem next_enter (h : l.Describes marks) (he : l.enter m = some l') (i : Nat) (a : Mark)
    (b : Holding) (hi : (marks ++ [m])[i]? = some a) (hb : a.begun? = some b) :
    (∃ e, (marks ++ [m])[i + 1]? = some e ∧ e.over? = some b) ∨
      (i + 1 = (marks ++ [m]).length ∧ l'.holding = b) := by
  by_cases hlt : i < marks.length
  · rw [List.getElem?_append_left hlt] at hi
    apply Or.inl
    rcases h.next i a b hi hb with ⟨e, hnext, hover⟩ | ⟨hlast, rfl⟩
    · have hlt' : i + 1 < marks.length := (List.getElem?_eq_some_iff.1 hnext).1
      exact ⟨e, by rwa [List.getElem?_append_left hlt'], hover⟩
    · have hne : l.holding ≠ .nothing := fun hl => a.begun?_ne_nothing (hl ▸ hb)
      exact ⟨m, by rw [hlast, List.getElem?_concat_length], over?_of_enter he hne⟩
  · have hlen : i < (marks ++ [m]).length := (List.getElem?_eq_some_iff.1 hi).1
    have hlast : i = marks.length := by simp at hlen; omega
    subst hlast
    rw [List.getElem?_concat_length] at hi
    cases hi
    exact Or.inr ⟨by simp, holding_of_begun? he hb⟩

theorem enter (h : l.Describes marks) (he : l.enter m = some l') : l'.Describes (marks ++ [m]) := by
  have ho := h.opened
  have hc := h.closed
  have hs := h.scheduled
  have hd := h.ended
  refine ⟨?_, ?_, ?_, ?_, h.next_enter he⟩
  -- A beginning adds the next number to its list and is held; an end adds the number held.
  all_goals
    rw [List.filterMap_append]
    cases entry_of_enter he <;>
    simp_all [Mark.opened?, Mark.closed?, Mark.scheduled?, Mark.ended?, Holding.link?,
      Holding.timer?, List.range'_1_concat, Nat.add_comm 1]

theorem enterAll (h : l.Describes marks) (more : List Mark) (he : l.enterAll more = some l') :
    l'.Describes (marks ++ more) := by
  induction more generalizing l marks with
  | nil =>
    cases he
    rwa [List.append_nil]
  | cons m rest ih =>
    obtain ⟨next, hm, hrest⟩ := Option.bind_eq_some_iff.1 he
    have := ih (h.enter hm) hrest
    rwa [List.append_assoc] at this

theorem bracketed (h : l.Describes marks) (hn : l.holding = .nothing) : Bracketed marks := by
  have hc := h.closed
  have hd := h.ended
  simp only [hn, Holding.link?, Holding.timer?, Option.toList_none, List.append_nil] at hc hd
  have hends (i : Nat) (a : Mark) (b : Holding) (hi : marks[i]? = some a)
      (hb : a.begun? = some b) : ∃ e, marks[i + 1]? = some e ∧ e.over? = some b :=
    (h.next i a b hi hb).resolve_right fun hlast =>
      a.begun?_ne_nothing (by rw [hb, ← hlast.2, hn])
  refine ⟨?_, hc.trans h.opened.symm, ?_, hd.trans h.scheduled.symm, ?_, ?_⟩
  · rw [h.opened, List.length_range']
  · rw [h.scheduled, List.length_range']
  · intro i n token hi
    obtain ⟨e, hnext, hover⟩ := hends i _ _ hi rfl
    rw [hnext, Mark.eq_of_over?_link hover]
  · intro i n delay hi
    obtain ⟨e, hnext, hover⟩ := hends i _ _ hi rfl
    rw [hnext]
    exact (Mark.eq_or_of_over?_timer hover).imp (congrArg some) (congrArg some)

/-- Of numbers without repetition, those not in the first part are the ones in the second. -/
theorem mem_and_not_mem_iff {whole first rest : List Nat} {k n : Nat}
    (hw : whole = List.range' 1 k) (hs : first ++ rest = List.range' 1 k) :
    n ∈ whole ∧ n ∉ first ↔ n ∈ rest := by
  have hnodup : (first ++ rest).Nodup := by rw [hs]; exact List.nodup_range'
  rw [hw, ← hs, List.mem_append]
  constructor
  · rintro ⟨hin, hout⟩
    exact hin.resolve_left hout
  · intro hr
    exact ⟨Or.inr hr, fun hf => (List.nodup_append.1 hnodup).2.2 n hf n hr rfl⟩

theorem linkUp_iff (h : l.Describes marks) (n : Nat) :
    LinkUp marks n ↔ l.holding.link? = some n := by
  rw [LinkUp, mem_and_not_mem_iff h.opened h.closed, Option.mem_toList]

theorem timerSet_iff (h : l.Describes marks) (n : Nat) :
    TimerSet marks n ↔ l.holding.timer? = some n := by
  rw [TimerSet, mem_and_not_mem_iff h.scheduled h.ended, Option.mem_toList]

theorem holding_le (h : l.Describes marks) :
    (∀ n, l.holding = .link n → n ≤ l.links) ∧ (∀ n, l.holding = .timer n → n ≤ l.timers) := by
  constructor
  · intro n hn
    have hin : n ∈ marks.filterMap Mark.opened? := ((h.linkUp_iff n).2 (by rw [hn]; rfl)).1
    rw [h.opened, List.mem_range'_1] at hin
    omega
  · intro n hn
    have hin : n ∈ marks.filterMap Mark.scheduled? := ((h.timerSet_iff n).2 (by rw [hn]; rfl)).1
    rw [h.scheduled, List.mem_range'_1] at hin
    omega

end Describes

/-- A link or timer whose number was given out and that is not held any more. -/
def Spent (l : Ledger) : Holding → Prop
  | .nothing => False
  | .link n => n ≤ l.links ∧ l.holding ≠ .link n
  | .timer n => n ≤ l.timers ∧ l.holding ≠ .timer n

/-- New numbers are larger than all before, so what is spent is never held again. -/
theorem Spent.enter {l l' : Ledger} {h : Holding} {m : Mark} (hs : l.Spent h)
    (he : l.enter m = some l') : l'.Spent h := by
  have hle := le_of_enter he
  cases h with
  | nothing => exact hs
  | link n =>
    obtain ⟨hn, hne⟩ := hs
    refine ⟨Nat.le_trans hn hle.1, ?_⟩
    cases entry_of_enter he with
    | openLink token free =>
      intro hl
      cases hl
      omega
    | _ => simp
  | timer n =>
    obtain ⟨hn, hne⟩ := hs
    refine ⟨Nat.le_trans hn hle.2, ?_⟩
    cases entry_of_enter he with
    | schedule delay free =>
      intro hl
      cases hl
      omega
    | _ => simp

theorem Spent.enterAll {l l' : Ledger} {h : Holding} {marks : List Mark} (hs : l.Spent h)
    (he : l.enterAll marks = some l') : l'.Spent h := by
  induction marks generalizing l with
  | nil =>
    cases he
    exact hs
  | cons m rest ih =>
    obtain ⟨next, hm, hrest⟩ := Option.bind_eq_some_iff.1 he
    exact ih (hs.enter hm) hrest

end Ledger

end OpsConsole
