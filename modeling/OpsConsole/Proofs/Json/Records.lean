import Mathlib.Data.List.Forall2
import OpsConsole.Proofs.Json.Members
import OpsConsole.Proofs.Json.Rendering

/-!
# Records

The fields of a record are read one after the other, and nothing is read if one of them is refused.
Still what is read can be told from each field by itself (`exists_mapM_forall₂_iff`), and so neither
the order in which members stand nor members that are no fields have any bearing on it. The texts in
an array are read likewise, and the members written for an object are found under their names.
-/

namespace OpsConsole.Json

section Lists

variable {α β γ : Type}

theorem mapM_bind_mapM (f : α → Option β) (g : β → Option γ) (l : List α) :
    (l.mapM f).bind (·.mapM g) = l.mapM fun a => (f a).bind g := by
  induction l with
  | nil => rfl
  | cons a l ih =>
    rw [List.mapM_cons, List.mapM_cons, ← ih]
    cases f a with
    | none => rfl
    | some b =>
      cases l.mapM f with
      | none => cases h : g b <;> simp [h]
      | some bs => simp

/-- What is read agrees with a list in each place exactly when each place is read in agreement. -/
theorem exists_mapM_forall₂_iff {f : α → Option β} {R : γ → β → Prop} {l : List α}
    {cs : List γ} :
    (∃ bs, l.mapM f = some bs ∧ List.Forall₂ R cs bs) ↔
      List.Forall₂ (fun c a => ∃ b, f a = some b ∧ R c b) cs l := by
  induction l generalizing cs with
  | nil => simp [List.forall₂_nil_right_iff]
  | cons a l ih =>
    cases cs with
    | nil => simp [List.forall₂_nil_left_iff, Option.bind_eq_some_iff]
    | cons c cs =>
      rw [List.forall₂_cons, ← ih]
      simp only [List.mapM_cons, Option.bind_eq_bind, Option.bind_eq_some_iff]
      constructor
      · rintro ⟨_, ⟨b, hb, bs, hbs, ⟨rfl⟩⟩, h⟩
        obtain ⟨hfirst, hrest⟩ := List.forall₂_cons.1 h
        exact ⟨⟨b, hb, hfirst⟩, bs, hbs, hrest⟩
      · rintro ⟨⟨b, hb, hfirst⟩, bs, hbs, hrest⟩
        exact ⟨b :: bs, ⟨b, hb, bs, hbs, rfl⟩, .cons hfirst hrest⟩

theorem forall₂_replace {R : γ → β → Prop} {cs : List γ} {before after : List β} {b b' : β}
    {c : γ} (hc : cs[before.length]? = some c) (h : R c b ↔ R c b') :
    List.Forall₂ R cs (before ++ b :: after) ↔ List.Forall₂ R cs (before ++ b' :: after) := by
  induction before generalizing cs with
  | nil =>
    cases cs with
    | nil => cases hc
    | cons d cs =>
      cases hc
      rw [List.nil_append, List.nil_append, List.forall₂_cons, List.forall₂_cons, h]
  | cons a before ih =>
    cases cs with
    | nil => cases hc
    | cons d cs =>
      rw [List.cons_append, List.cons_append, List.forall₂_cons, List.forall₂_cons, ih hc]

end Lists

namespace Document

variable {levels : Nat} {name : String} {members : List (String × Value)}

/-! ### Arrays of texts -/

theorem itemsOnto_eq (ds : List Document) (out : List Value) :
    itemsOnto levels out ds =
      (ds.mapM (value? levels)).map fun vs => .array (out.reverse ++ vs) := by
  induction ds generalizing out with
  | nil => simp [itemsOnto]
  | cons d ds ih =>
    rw [itemsOnto, List.mapM_cons]
    cases d.value? levels with
    | none => rfl
    | some v =>
      dsimp only
      rw [ih]
      cases ds.mapM (value? levels) <;> simp

theorem bind_text?_value? (d : Document) : (d.value? 0).bind Value.text? = d.text? := by
  cases d with
  | number n =>
    rw [value?]
    cases n.value? <;> rfl
  | text p =>
    rw [value?, text?]
    cases Piece.text? p <;> rfl
  | _ => rfl

theorem bind_texts?_array (items : List Document) :
    ((array items).value? 1).bind Value.texts? = items.mapM text? := by
  rw [value?, itemsOnto_eq, Option.bind_map]
  simp only [Function.comp_def, List.reverse_nil, List.nil_append, Value.texts?]
  rw [mapM_bind_mapM]
  simp only [bind_text?_value?]

theorem mapM_text?_itemDocuments (texts : List String) :
    (Value.itemDocuments (texts.map .text)).mapM text? = some texts := by
  induction texts with
  | nil => rfl
  | cons t texts ih =>
    rw [List.map_cons, Value.itemDocuments, List.mapM_cons, ih, Value.document, text?,
      Piece.text?_writtenPieces]
    rfl

/-! ### Members -/

theorem only?_perm {ds es : List Document} (h : ds.Perm es) : only? ds = only? es := by
  rcases ds with _ | ⟨d, _ | ⟨d', ds⟩⟩
  · rw [List.nil_perm.1 h]
  · rw [List.singleton_perm.1 h]
  · rw [only?_of_several (by simp), only?_of_several (by simp [← h.length_eq])]

theorem only?_cons_eq_some_iff {d : Document} {ds : List Document} {field : Option Document} :
    only? (d :: ds) = some field ↔ ds = [] ∧ field = some d := by
  cases ds <;> simp [only?, eq_comm]

theorem under_cons (name : String) (m : List Piece × Document)
    (ms : List (List Piece × Document)) :
    under name (m :: ms) =
      if Piece.text? m.1 = some name then m.2 :: under name ms else under name ms := by
  by_cases h : Piece.text? m.1 = some name <;> simp [under, h]

theorem memberDocuments_eq_map (members : List (String × Value)) :
    Value.memberDocuments members = members.map fun m => (writtenPieces m.1, m.2.document) := by
  induction members with
  | nil => rfl
  | cons m members ih => rw [Value.memberDocuments, ih, List.map_cons]

theorem isSome_key_memberDocuments (members : List (String × Value)) :
    ∀ m ∈ Value.memberDocuments members, (Piece.text? m.1).isSome := by
  rw [memberDocuments_eq_map, List.forall_mem_map]
  intro m _
  rw [Piece.text?_writtenPieces]
  rfl

theorem under_memberDocuments_eq_nil (h : name ∉ members.map (·.1)) :
    under name (Value.memberDocuments members) = [] := by
  rw [under, List.map_eq_nil_iff, List.filter_eq_nil_iff, memberDocuments_eq_map,
    List.forall_mem_map]
  intro m hm
  have hne : m.1 ≠ name := fun heq => h (heq ▸ List.mem_map_of_mem hm)
  simpa [Piece.text?_writtenPieces] using hne

theorem under_memberDocuments (h : (members.map (·.1)).Nodup) {m : String × Value}
    (hm : m ∈ members) : under m.1 (Value.memberDocuments members) = [m.2.document] := by
  induction members with
  | nil => cases hm
  | cons n members ih =>
    rw [List.map_cons, List.nodup_cons] at h
    rw [Value.memberDocuments, under_cons, Piece.text?_writtenPieces]
    rcases List.mem_cons.1 hm with rfl | hm
    · rw [if_pos rfl, under_memberDocuments_eq_nil h.1]
    · have hne : n.1 ≠ m.1 := fun heq => h.1 (heq ▸ List.mem_map_of_mem hm)
      rw [if_neg (by simpa using hne), ih h.2 hm]

end Document

end OpsConsole.Json
