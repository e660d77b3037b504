import Mathlib.Data.List.Induction
import Mathlib.Data.List.Sigma
import OpsConsole.Feed.Channel

/-!
# Channels as bounded queues

Items go into a channel at one end and leave it at the other, whatever its retention: once it is
full each ingest evicts the oldest item. A retain or a clearing takes items out of the middle, and
leaves room for later ones. So of all items that were ever ingested, those not taken out are first
the ones evicted, in the order of their eviction, and then the ones held, in the order of their
arrival.

Equal items may be ingested more than once, and some occurrences be taken out and others not.
Occurrences are therefore told apart by numbers, which change nothing else.
-/

namespace OpsConsole

/-- What is done to a channel. -/
inductive ChannelEvent (α : Type)
  | ingest (a : α)
  | retain (keep : α → Bool)
  | clear

/-- How items are listed, of which those that arrived first are given first. -/
def Retention.listed {α : Type} (r : Retention) (arrived : List α) : List α :=
  match r with
  | newestFirst _ => arrived.reverse
  | slidingWindow _ | latest => arrived

namespace Channel

variable {r : Retention} {α : Type} (c : Channel r α)

/-- The items in the order of their arrival. -/
def arrived : List α := c.held.reverse

theorem arrived_retain (keep : α → Bool) : (c.retain keep).arrived = c.arrived.filter keep :=
  List.filter_reverse.symm

theorem retain_nothing : c.retain (fun _ => false) = ∅ :=
  ext (List.filter_false _)

theorem newest?_eq_getLast?_arrived : c.newest? = c.arrived.getLast? :=
  List.getLast?_reverse.symm

theorem items_eq : c.items = r.listed c.arrived := by
  cases r with
  | newestFirst n => exact (List.reverse_reverse _).symm
  | _ => rfl

/-- An ingest evicts nothing while there is room, and else the oldest item, which is the new one
where none is held. -/
theorem evicted?_eq (c : Channel r α) (a : α) :
    c.evicted? a = if c.size < r.capacity then none else (c.arrived ++ [a]).head? := by
  obtain hroom | hfull := c.size_lt_or_eq
  · rw [if_pos hroom, evicted?_of_room a hroom]
  · rw [if_neg (Nat.not_lt.2 (Nat.le_of_eq hfull.symm)), evicted?_of_full a hfull, arrived,
      ← List.reverse_cons, List.head?_reverse]

theorem evicted?_append_arrived (c : Channel r α) (a : α) :
    (c.evicted? a).toList ++ (c.ingest a).arrived = c.arrived ++ [a] := by
  obtain hroom | hfull := c.size_lt_or_eq
  · rw [evicted?_of_room a hroom, arrived, held_ingest_of_room a hroom, List.reverse_cons]
    rfl
  · have hlast : (a :: c.held).getLast? = some ((a :: c.held).getLast (List.cons_ne_nil _ _)) :=
      List.getLast?_eq_some_getLast _
    have hsplit : (a :: c.held).dropLast ++ [(a :: c.held).getLast (List.cons_ne_nil _ _)] =
        a :: c.held := List.dropLast_append_getLast? _ hlast
    rw [evicted?_of_full a hfull, arrived, held_ingest_of_full a hfull, hlast, arrived,
      ← List.reverse_cons, ← congrArg List.reverse hsplit, List.reverse_concat]
    rfl

end Channel

namespace ChannelEvent

variable {α : Type}

/-- The items that are ingested, in the order of their arrival. -/
def ingested : List (ChannelEvent α) → List α
  | [] => []
  | ingest a :: es => a :: ingested es
  | retain _ :: es | clear :: es => ingested es

/-- The same events, with the ingested items numbered from `n` on. -/
def numbered (n : Nat) : List (ChannelEvent α) → List (ChannelEvent (α × Nat))
  | [] => []
  | ingest a :: es => ingest (a, n) :: numbered (n + 1) es
  | retain keep :: es => retain (keep ·.1) :: numbered n es
  | clear :: es => clear :: numbered n es

theorem ingested_concat (es : List (ChannelEvent α)) (e : ChannelEvent α) :
    ingested (es ++ [e]) = ingested es ++ ingested [e] := by
  induction es with
  | nil => rfl
  | cons e' es ih =>
    cases e' with
    | ingest a => exact congrArg (a :: ·) ih
    | _ => exact ih

theorem ingested_numbered (n : Nat) (es : List (ChannelEvent α)) :
    ingested (numbered n es) = (ingested es).zipIdx n := by
  induction es generalizing n with
  | nil => rfl
  | cons e es ih =>
    cases e with
    | ingest a => exact congrArg ((a, n) :: ·) (ih (n + 1))
    | _ => exact ih n

end ChannelEvent

/-- A channel, and all that has left it. -/
structure Passage (r : Retention) (α : Type) where
  channel : Channel r α
  /-- In the order of eviction. -/
  evicted : List α
  /-- What a retain or a clearing took out. -/
  removed : List α

namespace Passage

open ChannelEvent

variable {r : Retention} {α : Type}

def start : Passage r α := ⟨∅, [], []⟩

def step (p : Passage r α) : ChannelEvent α → Passage r α
  | .ingest a => ⟨p.channel.ingest a, p.evicted ++ (p.channel.evicted? a).toList, p.removed⟩
  | .retain keep =>
    ⟨p.channel.retain keep, p.evicted, p.removed ++ p.channel.arrived.filter (! keep ·)⟩
  | .clear => ⟨∅, p.evicted, p.removed ++ p.channel.arrived⟩

def run (p : Passage r α) (es : List (ChannelEvent α)) : Passage r α := es.foldl step p

theorem run_concat (p : Passage r α) (es : List (ChannelEvent α)) (e : ChannelEvent α) :
    p.run (es ++ [e]) = (p.run es).step e :=
  List.foldl_concat ..

theorem step_clear (p : Passage r α) : p.step .clear = p.step (.retain fun _ => false) := by
  have hall : p.channel.arrived.filter (fun _ => ! false) = p.channel.arrived := List.filter_true _
  rw [step, step, Channel.retain_nothing, hall]

/-! ### Numbers tell occurrences apart -/

/-- The same passage without the numbers. -/
def plain (p : Passage r (α × Nat)) : Passage r α :=
  ⟨⟨p.channel.held.map Prod.fst, by rw [List.length_map]; exact p.channel.bounded⟩,
    p.evicted.map Prod.fst, p.removed.map Prod.fst⟩

theorem plain_ingest (p : Passage r (α × Nat)) (a : α) (n : Nat) :
    (p.step (.ingest (a, n))).plain = p.plain.step (.ingest a) := by
  have hheld : (p.channel.ingest (a, n)).held.map Prod.fst =
      (p.plain.channel.ingest a).held := List.map_take
  have hevicted : (p.channel.evicted? (a, n)).toList.map Prod.fst =
      (p.plain.channel.evicted? a).toList := by
    have hmap : (p.channel.evicted? (a, n)).map Prod.fst = p.plain.channel.evicted? a :=
      List.getElem?_map.symm
    rw [← hmap, Option.toList_map]
  simp only [step, plain, List.map_append, hheld, hevicted]

theorem plain_retain (p : Passage r (α × Nat)) (keep : α → Bool) :
    (p.step (.retain (keep ·.1))).plain = p.plain.step (.retain keep) := by
  have hheld : (p.channel.retain (keep ·.1)).held.map Prod.fst =
      (p.plain.channel.retain keep).held := List.filter_map.symm
  have hremoved : (p.channel.arrived.filter (! keep ·.1)).map Prod.fst =
      p.plain.channel.arrived.filter (! keep ·) := by
    have harrived : p.plain.channel.arrived = p.channel.arrived.map Prod.fst :=
      List.map_reverse.symm
    rw [harrived, List.filter_map]
    rfl
  simp only [step, plain, List.map_append, hheld, hremoved]

theorem plain_clear (p : Passage r (α × Nat)) :
    (p.step .clear).plain = p.plain.step .clear := by
  rw [step_clear, step_clear]
  exact plain_retain p fun _ => false

theorem plain_run (p : Passage r (α × Nat)) (n : Nat) (es : List (ChannelEvent α)) :
    (p.run (numbered n es)).plain = p.plain.run es := by
  induction es generalizing p n with
  | nil => rfl
  | cons e es ih =>
    cases e with
    | ingest a => exact (ih _ (n + 1)).trans (congrArg (run · es) (plain_ingest p a n))
    | retain keep => exact (ih _ n).trans (congrArg (run · es) (plain_retain p keep))
    | clear => exact (ih _ n).trans (congrArg (run · es) (plain_clear p))

/-! ### Nothing is lost, and nothing overtakes -/

/-- The numbers of the occurrences that were taken out. -/
def gone (p : Passage r (α × Nat)) : List Nat := p.removed.map Prod.snd

/-- Of distinct occurrences, those that a test keeps are the ones whose number is not among those it
does not keep. -/
theorem filter_keep {held : List (α × Nat)} (h : (held.map Prod.snd).Nodup)
    (keep : α × Nat → Bool) :
    held.filter (·.2 ∉ (held.filter (! keep ·)).map Prod.snd) = held.filter keep := by
  refine List.filter_congr fun x hx => ?_
  have hgone : x.2 ∈ (held.filter (! keep ·)).map Prod.snd ↔ keep x = false := by
    constructor
    · intro hin
      obtain ⟨y, hy, hsame⟩ := List.mem_map.1 hin
      obtain ⟨hheld, hkeep⟩ := List.mem_filter.1 hy
      have hxy : y = x := List.inj_on_of_nodup_map h hheld hx hsame
      rw [← hxy]
      simpa using hkeep
    · intro hkeep
      exact List.mem_map_of_mem (List.mem_filter.2 ⟨hx, by rw [hkeep]; rfl⟩)
  cases hkeep : keep x with
  | true => exact decide_eq_true (mt hgone.1 (by simp [hkeep]))
  | false => exact decide_eq_false (not_not_intro (hgone.2 hkeep))

/-- What holds of a passage whose occurrences are distinct. -/
structure Conserved (p : Passage r (α × Nat)) (came : List (α × Nat)) : Prop where
  left : came.filter (·.2 ∉ p.gone) = p.evicted ++ p.channel.arrived
  known : ∀ n ∈ p.gone, n ∈ came.map Prod.snd

theorem Conserved.nodup {p : Passage r (α × Nat)} {came : List (α × Nat)} (h : Conserved p came)
    (hcame : (came.map Prod.snd).Nodup) :
    ((p.evicted ++ p.channel.arrived).map Prod.snd).Nodup := by
  rw [← h.left]
  exact hcame.sublist (List.filter_sublist.map _)

theorem Conserved.ingest {p : Passage r (α × Nat)} {came : List (α × Nat)} (h : Conserved p came)
    {x : α × Nat} (hnew : x.2 ∉ came.map Prod.snd) :
    Conserved (p.step (.ingest x)) (came ++ [x]) := by
  have hkept : x.2 ∉ p.gone := fun hin => hnew (h.known x.2 hin)
  refine ⟨?_, ?_⟩
  · change (came ++ [x]).filter (·.2 ∉ p.gone) =
      p.evicted ++ (p.channel.evicted? x).toList ++ (p.channel.ingest x).arrived
    rw [List.filter_append, h.left, List.filter_singleton, decide_eq_true hkept, List.append_assoc,
      List.append_assoc, Channel.evicted?_append_arrived]
    rfl
  · intro n hn
    rw [List.map_append]
    exact List.mem_append_left _ (h.known n hn)

theorem Conserved.retain {p : Passage r (α × Nat)} {came : List (α × Nat)} (h : Conserved p came)
    (hcame : (came.map Prod.snd).Nodup) (keep : α × Nat → Bool) :
    Conserved (p.step (.retain keep)) came := by
  have hnodup := h.nodup hcame
  rw [List.map_append] at hnodup
  obtain ⟨-, harrived, hapart⟩ := List.nodup_append.1 hnodup
  let out := (p.channel.arrived.filter (! keep ·)).map Prod.snd
  have hout : ∀ n ∈ out, n ∈ p.channel.arrived.map Prod.snd :=
    fun n hn => (List.filter_sublist.map Prod.snd).subset hn
  have hgone : (p.step (.retain keep)).gone = p.gone ++ out := List.map_append ..
  refine ⟨?_, ?_⟩
  · -- What was evicted before is not held, so it is not taken out now.
    have hevicted : p.evicted.filter (·.2 ∉ out) = p.evicted := by
      refine List.filter_eq_self.2 fun x hx => decide_eq_true fun hin => ?_
      exact hapart _ (List.mem_map_of_mem hx) _ (hout x.2 hin) rfl
    have hsplit : came.filter (·.2 ∉ p.gone ++ out) =
        (came.filter (·.2 ∉ p.gone)).filter (·.2 ∉ out) := by
      rw [List.filter_filter]
      refine List.filter_congr fun x _ => ?_
      simp only [List.mem_append, not_or, Bool.decide_and, Bool.and_comm]
    rw [hgone, hsplit, h.left, List.filter_append, hevicted, filter_keep harrived]
    exact congrArg (p.evicted ++ ·) (p.channel.arrived_retain keep).symm
  · intro n hn
    rw [hgone] at hn
    obtain hbefore | hnow := List.mem_append.1 hn
    · exact h.known n hbefore
    · have hleft : n ∈ (came.filter (·.2 ∉ p.gone)).map Prod.snd := by
        rw [h.left, List.map_append]
        exact List.mem_append_right _ (hout n hnow)
      exact (List.filter_sublist.map Prod.snd).subset hleft

theorem conserved_run (es : List (ChannelEvent (α × Nat)))
    (h : ((ingested es).map Prod.snd).Nodup) :
    Conserved (start.run es : Passage r (α × Nat)) (ingested es) := by
  induction es using List.reverseRecOn with
  | nil => exact ⟨rfl, nofun⟩
  | append_singleton es e ih =>
    rw [ingested_concat, List.map_append] at h
    obtain ⟨hbefore, -, hnew⟩ := List.nodup_append.1 h
    rw [run_concat, ingested_concat]
    cases e with
    | ingest x =>
      refine (ih hbefore).ingest fun hin => ?_
      exact hnew x.2 hin x.2 (List.mem_singleton.2 rfl) rfl
    | retain keep =>
      rw [ingested, ingested, List.append_nil]
      exact (ih hbefore).retain hbefore keep
    | clear =>
      rw [step_clear, ingested, ingested, List.append_nil]
      exact (ih hbefore).retain hbefore fun _ => false

/-! ### Retentions of the same capacity -/

/-- Two passages that differ at most in the order in which items are listed. -/
structure Alike {r r' : Retention} (p : Passage r α) (q : Passage r' α) : Prop where
  held : p.channel.held = q.channel.held
  evicted : p.evicted = q.evicted
  removed : p.removed = q.removed

theorem alike_run {r' : Retention} (hr : r.capacity = r'.capacity) {p : Passage r α}
    {q : Passage r' α} (h : p.Alike q) (es : List (ChannelEvent α)) :
    (p.run es).Alike (q.run es) := by
  induction es generalizing p q with
  | nil => exact h
  | cons e es ih =>
    refine ih ?_
    cases e with
    | ingest a =>
      refine ⟨?_, ?_, h.removed⟩
      · simp only [step, Channel.held_ingest, h.held, hr]
      · simp only [step, Channel.evicted?, h.held, h.evicted, hr]
    | retain keep =>
      refine ⟨?_, h.evicted, ?_⟩
      · simp only [step, Channel.held_retain, h.held]
      · simp only [step, Channel.arrived, h.held, h.removed]
    | clear =>
      refine ⟨rfl, h.evicted, ?_⟩
      simp only [step, Channel.arrived, h.held, h.removed]

theorem Alike.start {r' : Retention} : (start : Passage r α).Alike (start : Passage r' α) :=
  ⟨rfl, rfl, rfl⟩

theorem Alike.arrived {r' : Retention} {p : Passage r α} {q : Passage r' α} (h : p.Alike q) :
    p.channel.arrived = q.channel.arrived :=
  congrArg List.reverse h.held

/-! ### The queue -/

/-- The occurrences that came and were neither taken out nor evicted. -/
def surviving (p : Passage r (α × Nat)) (came : List (α × Nat)) : List (α × Nat) :=
  (came.filter (·.2 ∉ p.gone)).filter (·.2 ∉ p.evicted.map Prod.snd)

theorem Conserved.surviving_eq {p : Passage r (α × Nat)} {came : List (α × Nat)}
    (h : Conserved p came) (hcame : (came.map Prod.snd).Nodup) :
    p.surviving came = p.channel.arrived := by
  have hnodup := h.nodup hcame
  rw [List.map_append] at hnodup
  obtain ⟨-, -, hapart⟩ := List.nodup_append.1 hnodup
  have hevicted : p.evicted.filter (·.2 ∉ p.evicted.map Prod.snd) = [] :=
    List.filter_eq_nil_iff.2 fun x hx =>
      Bool.eq_false_iff.1 (decide_eq_false (not_not_intro (List.mem_map_of_mem hx)))
  have hheld : p.channel.arrived.filter (·.2 ∉ p.evicted.map Prod.snd) = p.channel.arrived :=
    List.filter_eq_self.2 fun x hx =>
      decide_eq_true fun hin => hapart _ hin _ (List.mem_map_of_mem hx) rfl
  rw [surviving, h.left, List.filter_append, hevicted, hheld, List.nil_append]

/-- A channel is a bounded queue, whatever is done to it from empty on. Of the items that were
ingested, those that no retain and no clearing took out are first the ones evicted and then the ones
held; the newest of them is the last that survives. It holds no more than its capacity, and an
ingest evicts exactly when it is full, and then the oldest item. A channel that lists the newest
first is the mirror image of a sliding window, and one of a single item is a sliding window of
one. -/
theorem bounded_fifo (r : Retention) (es : List (ChannelEvent α)) :
    let p : Passage r α := start.run es
    let q : Passage r (α × Nat) := start.run (numbered 0 es)
    let came := (ingested es).zipIdx
    (q.plain = p ∧
      came.filter (·.2 ∉ q.gone) = q.evicted ++ q.channel.arrived ∧
      p.channel.newest? = (q.surviving came).getLast?.map Prod.fst) ∧
    (p.channel.size ≤ r.capacity ∧
      p.channel.items = r.listed p.channel.arrived ∧
      (∀ a, r.store p.channel.items a = ((p.channel.ingest a).items, p.channel.evicted? a)) ∧
      (∀ a, p.channel.evicted? a =
        if p.channel.size < r.capacity then none else (p.channel.arrived ++ [a]).head?) ∧
      ∀ keep, (p.channel.retain keep).arrived = p.channel.arrived.filter keep ∧
        p.channel.removed keep = p.channel.arrived.countP (! keep ·)) ∧
    (∀ n, let w : Passage (.slidingWindow n) α := start.run es
      let f : Passage (.newestFirst n) α := start.run es
      f.Alike w ∧ f.channel.items = w.channel.items.reverse) ∧
    (let w : Passage (.slidingWindow 1) α := start.run es
      let l : Passage .latest α := start.run es
      l.Alike w ∧ l.channel.items = w.channel.items) := by
  intro p q came
  have hnodup : ((ingested (numbered 0 es)).map Prod.snd).Nodup := by
    rw [ingested_numbered]
    exact List.nodup_zipIdx_map_snd _
  have hcame : ingested (numbered 0 es) = came := ingested_numbered 0 es
  have hconserved : Conserved q came := hcame ▸ conserved_run (numbered 0 es) hnodup
  have hplain : q.plain = p := plain_run start 0 es
  refine ⟨⟨hplain, hconserved.left, ?_⟩, ⟨p.channel.bounded, p.channel.items_eq,
    p.channel.store_items, p.channel.evicted?_eq, fun keep => ⟨p.channel.arrived_retain keep, ?_⟩⟩,
    fun n => ?_, ?_⟩
  · have harrived : p.channel.arrived = q.channel.arrived.map Prod.fst := by
      rw [← hplain]
      exact List.map_reverse.symm
    rw [hconserved.surviving_eq (hcame ▸ hnodup), Channel.newest?_eq_getLast?_arrived, harrived,
      List.getLast?_map]
  · rw [Channel.removed_eq_countP, Channel.arrived, List.countP_reverse]
  · have hcapacity : Retention.capacity (.newestFirst n) = Retention.capacity (.slidingWindow n) :=
      rfl
    have halike := alike_run hcapacity Alike.start es
    refine ⟨halike, ?_⟩
    rw [Channel.items_eq, Channel.items_eq]
    exact congrArg List.reverse halike.arrived
  · have hcapacity : Retention.capacity .latest = Retention.capacity (.slidingWindow 1) := rfl
    have halike := alike_run hcapacity Alike.start es
    refine ⟨halike, ?_⟩
    rw [Channel.items_eq, Channel.items_eq]
    exact halike.arrived

/-- The room that a retain leaves is used before anything is evicted. -/
example :
    let p : Passage (.newestFirst 2) Nat :=
      start.run [.ingest 1, .ingest 2, .retain (· ≠ 1), .ingest 3, .ingest 4]
    (p.channel.items, p.evicted, p.removed) = ([4, 3], [2], [1]) := by
  decide

end Passage

end OpsConsole
