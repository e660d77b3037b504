import OpsConsole.Proofs.Feed.Projection
import OpsConsole.Proofs.Feed.Queue
import OpsConsole.Proofs.Json.Rendering

/-!
# Acknowledged alerts

An acknowledgement takes out of the alerts those that bear the identifier, as a text or as a number
written that way, and nothing else. So it makes no difference in which order identifiers are
acknowledged, nor whether one is acknowledged twice. The alerts that bear it are gone until another
one comes, and the room they leave is used before anything is evicted.
-/

namespace OpsConsole

open Json

namespace Channel

variable {r : Retention} {α : Type} {c : Channel r α}

theorem retain_of_removed_eq_zero {keep : α → Bool} (h : c.removed keep = 0) :
    c.retain keep = c := by
  rw [removed_eq_countP, List.countP_eq_zero] at h
  have hkept : ∀ a ∈ c.held, keep a = true := by simpa using h
  exact ext (List.filter_eq_self.2 hkept)

theorem retain_comm (c : Channel r α) (p q : α → Bool) :
    (c.retain p).retain q = (c.retain q).retain p := by
  apply ext
  simp only [held_retain, List.filter_filter, Bool.and_comm]

theorem size_retain_add_removed (c : Channel r α) (keep : α → Bool) :
    (c.retain keep).size + c.removed keep = c.size :=
  Nat.add_sub_of_le (List.length_filter_le _ _)

theorem removed_retain_self (c : Channel r α) (keep : α → Bool) :
    (c.retain keep).removed keep = 0 := by
  rw [removed_eq_countP, held_retain, List.countP_eq_zero]
  intro a ha
  simpa using (List.mem_filter.1 ha).2

theorem ofArrived_arrived (c : Channel r α) : ofArrived c.arrived = c := by
  apply ext
  rw [held_ofArrived, arrived, List.reverse_reverse, List.take_of_length_le c.bounded]

/-- After some ingests the channel holds the newest of the items ingested and of those before. -/
theorem held_foldl_ingest (c : Channel r α) (items : List α) :
    (items.foldl ingest c).held = (items.reverse ++ c.held).take r.capacity := by
  rw [← ofArrived_arrived c, foldl_ingest_ofArrived, held_ofArrived, ofArrived_arrived,
    List.reverse_append, arrived, List.reverse_reverse]

/-- An ingest evicts nothing exactly while the ingests before it have not used up the room. -/
theorem evicted?_foldl_ingest_eq_none_iff (c : Channel r α) (items : List α) (a : α) :
    (items.foldl ingest c).evicted? a = none ↔ items.length < r.capacity - c.size := by
  rw [evicted?, List.getElem?_eq_none_iff, List.length_cons, held_foldl_ingest, List.length_take,
    List.length_append, List.length_reverse, ← size]
  omega

end Channel

/-- An alert, an object, bears an identifier under `id`: that text, or a number that is written
so. -/
inductive Bears (id : String) (alert : Payload) : Prop
  | text (h : alert.value.get? "id" = some (.text id))
  | number {n : Number} (h : alert.value.get? "id" = some (.number n))
    (hn : (Value.number n).render = id)

/-- The alerts that bear no identifier: what is no object or has no member `id`, and what has
anything but a text or a number there. -/
inductive Unidentified (alert : Payload) : Prop
  | absent (h : alert.value.get? "id" = none)
  | null (h : alert.value.get? "id" = some .null)
  | boolean {b : Bool} (h : alert.value.get? "id" = some (.boolean b))
  | array {items : List Value} (h : alert.value.get? "id" = some (.array items))
  | object {members : List (String × Value)} (h : alert.value.get? "id" = some (.object members))

theorem render_number (n : Number) : (Value.number n).render = n.text := by
  apply String.toList_injective
  rw [Value.toList_render, Number.text, String.toList_ofList]
  rfl

theorem alertId?_eq_some_iff {alert : Payload} {id : String} :
    alertId? alert = some id ↔ Bears id alert := by
  constructor
  · intro h
    rw [alertId?] at h
    split at h
    · next s hs => exact .text (hs.trans (congrArg _ (congrArg _ (Option.some.inj h))))
    · next n hn => exact .number hn ((render_number n).trans (Option.some.inj h))
    · cases h
  · rintro (h | ⟨h, rfl⟩)
    · rw [alertId?, h]
    · rw [alertId?, h, render_number]

instance (id : String) (alert : Payload) : Decidable (Bears id alert) :=
  decidable_of_iff _ alertId?_eq_some_iff

theorem not_bears_of_unidentified {alert : Payload} (h : Unidentified alert) (id : String) :
    ¬ Bears id alert := by
  rw [← alertId?_eq_some_iff, alertId?]
  rcases h with h | h | h | h | h <;> simp [h]

/-- What can happen to the channels. -/
inductive ChannelsEvent
  | ingest (f : Frame)
  | acknowledge (id : String)
  | dropLines (process : String)
  | clear

namespace Channels

variable {limits : Limits}

def step (c : Channels limits) : ChannelsEvent → Channels limits
  | .ingest f => c.ingest f
  | .acknowledge id => c.acknowledge id
  | .dropLines process => c.dropLines process
  | .clear => ∅

def run (c : Channels limits) (es : List ChannelsEvent) : Channels limits := es.foldl step c

variable {c : Channels limits} {id : String}

theorem survives_eq (id : String) : survives id = fun alert => decide (¬ Bears id alert) := by
  funext alert
  rw [survives, Bool.eq_iff_iff, bne_iff_ne, decide_eq_true_iff]
  exact alertId?_eq_some_iff.not

theorem items_acknowledge (c : Channels limits) (id : String) :
    (c.acknowledge id).alerts.items = c.alerts.items.filter (¬ Bears id ·) := by
  change c.alerts.held.filter (survives id) = c.alerts.held.filter _
  rw [survives_eq]

theorem acknowledged_eq_countP (c : Channels limits) (id : String) :
    c.acknowledged id = c.alerts.items.countP (Bears id ·) := by
  rw [acknowledged, Channel.removed_eq_countP, survives_eq]
  simp only [decide_not, Bool.not_not]
  rfl

theorem acknowledge_of_acknowledged_eq_zero (h : c.acknowledged id = 0) : c.acknowledge id = c := by
  rw [acknowledge, Channel.retain_of_removed_eq_zero h]

theorem acknowledged_acknowledge_self (c : Channels limits) (id : String) :
    (c.acknowledge id).acknowledged id = 0 :=
  Channel.removed_retain_self _ _

theorem acknowledge_comm (c : Channels limits) (a b : String) :
    (c.acknowledge a).acknowledge b = (c.acknowledge b).acknowledge a := by
  rw [acknowledge, acknowledge, acknowledge, acknowledge, Channel.retain_comm]

theorem size_acknowledge_add (c : Channels limits) (id : String) :
    (c.acknowledge id).alerts.size + c.acknowledged id = c.alerts.size :=
  Channel.size_retain_add_removed _ _

/-- Two acknowledgements remove as many alerts in either order. -/
theorem acknowledged_add_comm (c : Channels limits) (a b : String) :
    c.acknowledged a + (c.acknowledge a).acknowledged b =
      c.acknowledged b + (c.acknowledge b).acknowledged a := by
  have ha := c.size_acknowledge_add a
  have hb := c.size_acknowledge_add b
  have hab := (c.acknowledge a).size_acknowledge_add b
  have hba := (c.acknowledge b).size_acknowledge_add a
  rw [acknowledge_comm c a b] at hab
  omega

theorem alerts_ingest (c : Channels limits) (f : Frame) :
    (c.ingest f).alerts = (Frame.payload? .alert f).toList.foldl Channel.ingest c.alerts := by
  cases f <;> rfl

theorem alerts_foldl_ingest (c : Channels limits) (fs : List Frame) :
    (fs.foldl ingest c).alerts =
      (fs.filterMap (Frame.payload? .alert)).foldl Channel.ingest c.alerts := by
  induction fs generalizing c with
  | nil => rfl
  | cons f fs ih =>
    rw [List.foldl_cons, ih, alerts_ingest]
    cases hf : Frame.payload? .alert f with
    | none => rw [List.filterMap_cons_none hf]; rfl
    | some alert => rw [List.filterMap_cons_some hf]; rfl

theorem mem_alerts_step {e : ChannelsEvent} {alert : Payload}
    (h : alert ∈ (c.step e).alerts.items) :
    alert ∈ c.alerts.items ∨ e = .ingest (.alert alert) := by
  cases e with
  | ingest f =>
    cases f with
    | alert v =>
      rcases List.mem_cons.1 (List.mem_of_mem_take h) with rfl | hold
      · exact .inr rfl
      · exact .inl hold
    | _ => exact .inl h
  | acknowledge id =>
    rw [step, items_acknowledge] at h
    exact .inl (List.mem_of_mem_filter h)
  | dropLines process => exact .inl h
  | clear => cases h

theorem mem_alerts_run {es : List ChannelsEvent} {alert : Payload}
    (h : alert ∈ (c.run es).alerts.items) :
    alert ∈ c.alerts.items ∨ .ingest (.alert alert) ∈ es := by
  induction es generalizing c with
  | nil => exact .inl h
  | cons e es ih =>
    rcases ih h with hstep | hlater
    · rcases mem_alerts_step hstep with hbefore | rfl
      · exact .inl hbefore
      · exact .inr List.mem_cons_self
    · exact .inr (List.mem_cons_of_mem e hlater)

/-- An acknowledgement removes exactly the alerts that bear the identifier and says how many there
were; the others stay in their order, and so do all other channels. A second one finds nothing to
remove, and two of them remove the same in either order. Whatever happens afterwards, an alert that
bears the identifier is one that came later. The next frames evict no alert exactly while the alerts
among them are fewer than the places that were free before and those that were freed. -/
theorem acknowledge_exact (c : Channels limits) (a : String) :
    let d := c.acknowledge a
    let free := limits.alerts - c.alerts.size + c.acknowledged a
    (d.alerts.items = c.alerts.items.filter (¬ Bears a ·) ∧
      (∀ alert ∈ c.alerts.items, Unidentified alert → alert ∈ d.alerts.items)) ∧
    c.acknowledged a = c.alerts.items.countP (Bears a ·) ∧
    d = { c with alerts := d.alerts } ∧
    (d.acknowledged a = 0 ∧ d.acknowledge a = d) ∧
    (∀ b, d.acknowledge b = (c.acknowledge b).acknowledge a ∧
      c.acknowledged a + d.acknowledged b = c.acknowledged b + (c.acknowledge b).acknowledged a) ∧
    (∀ es, ∀ alert ∈ (d.run es).alerts.items, Bears a alert → .ingest (.alert alert) ∈ es) ∧
    ∀ fs : List Frame,
      let e := fs.foldl ingest d
      let came := fs.filterMap (Frame.payload? .alert)
      (came.length ≤ free → e.alerts.items = came.reverse ++ d.alerts.items) ∧
      ∀ alert, e.alerts.evicted? alert = none ↔ came.length < free := by
  intro d free
  have hzero : d.acknowledged a = 0 := c.acknowledged_acknowledge_self a
  have hitems : d.alerts.items = c.alerts.items.filter (¬ Bears a ·) := c.items_acknowledge a
  have hfree : limits.alerts - d.alerts.size = free := by
    have hsize : d.alerts.size + c.acknowledged a = c.alerts.size := c.size_acknowledge_add a
    have hbound : c.alerts.size ≤ limits.alerts := c.alerts.bounded
    omega
  refine ⟨⟨hitems, fun alert halert hnone => ?_⟩, c.acknowledged_eq_countP a, rfl,
    ⟨hzero, acknowledge_of_acknowledged_eq_zero hzero⟩,
    fun b => ⟨c.acknowledge_comm a b, c.acknowledged_add_comm a b⟩, ?_, ?_⟩
  · rw [hitems]
    exact List.mem_filter.2 ⟨halert, decide_eq_true (not_bears_of_unidentified hnone a)⟩
  · intro es alert halert hbears
    refine (mem_alerts_run halert).resolve_left fun hkept => ?_
    rw [hitems] at hkept
    exact of_decide_eq_true (List.mem_filter.1 hkept).2 hbears
  · intro fs e came
    have halerts : e.alerts = came.foldl Channel.ingest d.alerts := d.alerts_foldl_ingest fs
    refine ⟨fun hroom => ?_, fun alert => ?_⟩
    · have hheld := d.alerts.held_foldl_ingest came
      rw [← halerts] at hheld
      refine hheld.trans (List.take_of_length_le ?_)
      have hbound : d.alerts.size ≤ limits.alerts := d.alerts.bounded
      have hlength : (came.reverse ++ d.alerts.held).length = came.length + d.alerts.size := by
        rw [List.length_append, List.length_reverse, Channel.size]
      rw [hlength]
      change came.length + d.alerts.size ≤ limits.alerts
      omega
    · rw [halerts, Channel.evicted?_foldl_ingest_eq_none_iff, ← hfree]
      rfl

/-- Of three alerts two bear the identifier 7, one as a text and one as a number. The room that they
leave is taken by the next alert, and nothing is evicted. -/
theorem room_of_acknowledged :
    let text : Payload := ⟨.object [("id", .text "7")], by decide⟩
    let number : Payload := ⟨.object [("id", .number (.whole 7 (by decide)))], by decide⟩
    let other : Payload := ⟨.object [("id", .null)], by decide⟩
    let later : Payload := ⟨.object [("id", .text "8")], by decide⟩
    let c : Channels { alerts := 3 } := [.alert text, .alert other, .alert number].foldl ingest ∅
    let next : List Frame := [.alert later, .metricsSample .null]
    c.acknowledged "7" = 2 ∧
      (next.foldl ingest (c.acknowledge "7")).alerts.items = [later, other] := by
  intro text number other later c next
  obtain ⟨-, hcount, -, -, -, -, hnext⟩ := acknowledge_exact c "7"
  have hremoved : c.acknowledged "7" = 2 := hcount.trans (by decide +kernel)
  refine ⟨hremoved, ((hnext next).1 ?_).trans (by decide +kernel)⟩
  rw [hremoved]
  decide +kernel

end Channels

end OpsConsole
