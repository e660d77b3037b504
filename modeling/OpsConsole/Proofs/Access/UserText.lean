import Mathlib.Logic.Relation
import OpsConsole.Access.User
import OpsConsole.Proofs.Json.Records
import OpsConsole.Proofs.Json.RoundTrip
import OpsConsole.Proofs.Json.Scanning

/-!
# Users and their texts

`Says` and `Shows` tell of each field by itself what it has to hold for a user to be read, so a
record is read as a user exactly when every field shows that user. `Variation` lists what may
differ between two records of one user. A user is read back from the text written for it, and all
variations of a text are therefore rewritten to one text.
-/

namespace OpsConsole

open Json

namespace Json.Number

/-- The whole numbers of 64 bits, with a sign or without. -/
structure Fits (k : Int) : Prop where
  low : -(Nat.pow 2 63 : Int) ≤ k
  high : k < (Nat.pow 2 64 : Int)

/-- A whole number as it is kept. -/
def ofInt (k : Int) (h : Fits k) : Number :=
  if hk : k < 0 then
    .negative k.natAbs (Int.natAbs_pos.2 (Int.ne_of_lt hk)) (by have := h.low; omega)
  else .whole k.natAbs (by have := h.high; omega)

variable {k : Int}

theorem text_ofInt (h : Fits k) : (ofInt k h).text = toString k := by
  cases k with
  | ofNat n => rfl
  | negSucc n =>
    have hdecimal : toString (Int.negSucc n) = "-" ++ Nat.repr (n + 1) := rfl
    rw [ofInt, dif_pos (Int.negSucc_lt_zero n), hdecimal, text, chars, Int.natAbs_negSucc, Nat.repr]
    exact String.toList_inj.1 (by simp)

theorem value?_numeral_ofInt (h : Fits k) : (ofInt k h).numeral.value? = some (ofInt k h) := by
  refine Json.value?_numeral fun x hx => ?_
  unfold ofInt at hx
  split at hx <;> cases hx

end Json.Number

namespace User

variable {u : User}

/-! ### Fields -/

/-- What the value of a field says of a user. -/
def Says (u : User) : String → Option Value → Prop
  | "id", v => v.bind Value.identifier? = some u.id
  | "username", v => optional Value.text? "" v = some u.username
  | "email", v => optional Value.text? "" v = some u.email
  | "roles", v => optional textSet? ∅ v = some u.roles
  | "permissions", v => optional textSet? ∅ v = some u.permissions
  | "enabled", v => optional Value.boolean? true v = some u.enabled
  | "mfaEnabled", v => optional Value.boolean? false v = some u.mfaEnabled
  | _, _ => False

theorem ofFields_eq_some_iff {fields : List (Option Value)} :
    ofFields fields = some u ↔ List.Forall₂ u.Says fieldNames fields := by
  rw [ofFields.eq_def]
  constructor
  · intro h
    split at h
    · simp only [Option.bind_eq_bind, Option.bind_eq_some_iff] at h
      obtain ⟨_, hid, _, husername, _, hemail, _, hroles, _, hpermissions, _, henabled, _, hmfa,
        ⟨rfl⟩⟩ := h
      exact .cons hid (.cons husername (.cons hemail (.cons hroles (.cons hpermissions
        (.cons henabled (.cons hmfa .nil))))))
    · cases h
  · intro h
    unfold fieldNames at h
    rcases h with _ | ⟨hid, _ | ⟨husername, _ | ⟨hemail, _ | ⟨hroles, _ | ⟨hpermissions,
      _ | ⟨henabled, _ | ⟨hmfa, ⟨⟩⟩⟩⟩⟩⟩⟩⟩
    obtain ⟨v, rfl, hv⟩ := Option.bind_eq_some_iff.1 hid
    simp only [Says] at husername hemail hroles hpermissions henabled hmfa
    simp [hv, husername, hemail, hroles, hpermissions, henabled, hmfa]

/-- A field is written in agreement with a user, or left out. -/
def Shows (u : User) (name : String) (d : Option Document) : Prop :=
  ∃ v, fieldValue? d = some v ∧ u.Says name v

theorem shows_text {name s : String} {p : List Piece} (hp : Piece.text? p = some s) :
    u.Shows name (some (.text p)) ↔ u.Says name (some (.text s)) := by
  simp [Shows, fieldValue?, Document.value?, hp]

/-- An array is read as the set of the texts in it. -/
theorem exists_textSet?_iff {items : List Document} {s : TextSet} :
    (∃ v, fieldValue? (some (.array items)) = some v ∧ optional textSet? ∅ v = some s) ↔
      (items.mapM Document.text?).map TextSet.ofList = some s := by
  rw [← Option.bind_eq_some_iff, ← Document.bind_texts?_array, fieldValue?]
  cases Document.value? 1 (.array items) <;> rfl

/-! ### Records -/

theorem ofDocument?_eq_some_iff {d : Document} :
    ofDocument? d = some u ↔
      ∃ fields, d.fields? fieldNames = some fields ∧ List.Forall₂ u.Shows fieldNames fields := by
  rw [ofDocument?, Option.bind_assoc, Option.bind_eq_some_iff]
  simp only [Option.bind_eq_some_iff, ofFields_eq_some_iff]
  exact exists_congr fun fields => and_congr_right fun _ => exists_mapM_forall₂_iff

theorem ofDocument?_object_iff {members : List (List Piece × Document)} :
    ofDocument? (.object members) = some u ↔
      (∀ m ∈ members, (Piece.text? m.1).isSome) ∧
        ∀ name ∈ fieldNames,
          ∃ d, Document.only? (Document.under name members) = some d ∧ u.Shows name d := by
  rw [ofDocument?_eq_some_iff]
  by_cases hkeys : ∀ m ∈ members, (Piece.text? m.1).isSome
  · obtain ⟨named, hnamed⟩ := Document.exists_named hkeys
    rw [Document.fields?_object hnamed, exists_mapM_forall₂_iff, List.forall₂_same]
    exact (and_iff_right hkeys).symm
  · have hnamed : Document.namedMembers? members = none := by
      simp only [not_forall] at hkeys
      obtain ⟨m, hm, hkey⟩ := hkeys
      refine Document.mapM_eq_none_of_mem hm ?_
      rw [Option.not_isSome_iff_eq_none.1 hkey]
      rfl
    exact iff_of_false (by simp [Document.fields?, hnamed]) fun h => hkeys h.1

theorem ofDocument?_array_iff {items : List Document} :
    ofDocument? (.array items) = some u ↔ items.length ≤ fieldNames.length ∧
      List.Forall₂ u.Shows fieldNames
        (items.map some ++ List.replicate (fieldNames.length - items.length) none) := by
  rw [ofDocument?_eq_some_iff, Document.fields?]
  split
  · next h => simp [h]
  · next h => simp [h]

/-! ### Variations -/

/-- Two ways to write a field. An identifier that is a whole number of 64 bits may be written as a
number or as its decimal text. Of an array of texts only counts which texts are in it. -/
inductive SameField : String → Document → Document → Prop
  | identifier {k : Int} {p : List Piece} (hk : Number.Fits k)
      (hp : Piece.text? p = some (toString k)) :
    SameField "id" (.number (Number.ofInt k hk).numeral) (.text p)
  | entries {name : String} (hname : name = "roles" ∨ name = "permissions")
      {items items' : List Document} {texts texts' : List String}
      (htexts : items.mapM Document.text? = some texts)
      (htexts' : items'.mapM Document.text? = some texts') (h : ∀ t, t ∈ texts ↔ t ∈ texts') :
    SameField name (.array items) (.array items')

/-- What may differ between two records of a user, in an object or in an array. -/
inductive Variation : Document → Document → Prop
  | reordered {members members' : List (List Piece × Document)} (h : members.Perm members') :
    Variation (.object members) (.object members')
  | unknown {name : String} {key : List Piece} (hkey : Piece.text? key = some name)
      (hname : name ∉ fieldNames) (d : Document) (members : List (List Piece × Document)) :
    Variation (.object ((key, d) :: members)) (.object members)
  | member {name : String} {key : List Piece} (hkey : Piece.text? key = some name)
      {d d' : Document} (h : SameField name d d') (members : List (List Piece × Document)) :
    Variation (.object ((key, d) :: members)) (.object ((key, d') :: members))
  | item {name : String} {before : List Document} (hname : fieldNames[before.length]? = some name)
      {d d' : Document} (h : SameField name d d') (after : List Document) :
    Variation (.array (before ++ d :: after)) (.array (before ++ d' :: after))

theorem shows_congr {name : String} {d d' : Document} (h : SameField name d d') :
    u.Shows name (some d) ↔ u.Shows name (some d') := by
  cases h with
  | identifier hk hp =>
    rw [shows_text hp]
    simp [Shows, fieldValue?, Document.value?, Number.value?_numeral_ofInt, Says, Value.identifier?,
      Number.text_ofInt]
  | @entries _ hname _ _ texts texts' htexts htexts' h =>
    have hsame : TextSet.ofList texts = TextSet.ofList texts' := by
      ext t
      rw [TextSet.mem_ofList, TextSet.mem_ofList, h]
    rcases hname with rfl | rfl <;>
      simp only [Shows, Says, exists_textSet?_iff, htexts, htexts', Option.map_some, hsame]

theorem ofDocument?_of_variation {d d' : Document} (h : Variation d d') :
    ofDocument? d = some u ↔ ofDocument? d' = some u := by
  cases h with
  | @reordered members members' h =>
    have honly : ∀ name, Document.only? (Document.under name members) =
        Document.only? (Document.under name members') :=
      fun name => Document.only?_perm ((h.filter _).map _)
    simp only [ofDocument?_object_iff, honly, h.mem_iff]
  | @unknown name key hkey hname d members =>
    have hunder : ∀ other ∈ fieldNames,
        Document.under other ((key, d) :: members) = Document.under other members := by
      intro other hother
      have hne : name ≠ other := fun heq => hname (heq ▸ hother)
      rw [Document.under_cons, hkey, if_neg (by simpa using hne)]
    rw [ofDocument?_object_iff, ofDocument?_object_iff, List.forall_mem_cons, hkey]
    refine and_congr (and_iff_right rfl) (forall₂_congr fun other hother => ?_)
    rw [hunder other hother]
  | @member name key hkey d d' h members =>
    rw [ofDocument?_object_iff, ofDocument?_object_iff, List.forall_mem_cons, List.forall_mem_cons]
    refine and_congr Iff.rfl (forall₂_congr fun other _ => ?_)
    rw [Document.under_cons, Document.under_cons, hkey]
    by_cases hother : name = other
    · subst hother
      simp only [if_true, Document.only?_cons_eq_some_iff, and_assoc, exists_eq_left,
        exists_and_left, shows_congr h]
    · simp [hother]
  | @item name before hname d d' h after =>
    rw [ofDocument?_array_iff, ofDocument?_array_iff]
    simp only [List.length_append, List.length_cons, List.map_append, List.map_cons,
      List.append_assoc, List.cons_append]
    exact and_congr_right fun _ => forall₂_replace (by simpa using hname) (shows_congr h)

theorem ofDocument?_of_eqvGen {d d' : Document} (h : Relation.EqvGen Variation d d') :
    ofDocument? d = some u ↔ ofDocument? d' = some u := by
  induction h with
  | rel _ _ h => exact ofDocument?_of_variation h
  | refl _ => exact Iff.rfl
  | symm _ _ _ ih => exact ih.symm
  | trans _ _ _ _ _ ih ih' => exact ih.trans ih'

/-! ### Writing -/

theorem shows_toMembers (u : User) : ∀ m ∈ u.toMembers, u.Shows m.1 (some m.2.document) := by
  have htext : ∀ {name s : String}, u.Says name (some (.text s)) →
      u.Shows name (some (Value.text s).document) :=
    fun h => (shows_text (Piece.text?_writtenPieces _)).2 h
  have hset : ∀ s : TextSet, ∃ v,
      fieldValue? (some (Value.array (s.items.map .text)).document) = some v ∧
        optional textSet? ∅ v = some s := by
    intro s
    rw [Value.document, exists_textSet?_iff, Document.mapM_text?_itemDocuments, Option.map_some,
      TextSet.ofList_items]
  simp only [toMembers, List.forall_mem_cons]
  exact ⟨htext rfl, htext rfl, htext rfl, hset u.roles, hset u.permissions, ⟨_, rfl, rfl⟩,
    ⟨_, rfl, rfl⟩, List.forall_mem_nil _⟩

theorem parse?_render (u : User) : parse? u.render = some u := by
  rw [parse?, render, renderRecord, Value.toList_render, Document.parse_chars, Option.bind_some]
  refine ofDocument?_object_iff.2 ⟨Document.isSome_key_memberDocuments _, ?_⟩
  change ∀ name ∈ u.toMembers.map (·.1), _
  rw [List.forall_mem_map]
  intro m hm
  have hnodup : (u.toMembers.map (·.1)).Nodup := by simp [toMembers]
  have hunder := Document.under_memberDocuments hnodup hm
  exact ⟨some m.2.document, by rw [hunder]; rfl, shows_toMembers u m hm⟩

theorem parse?_of_laidOut {text : String} {d : Document} (h : LaidOut d.tokens text.toList) :
    parse? text = ofDocument? d := by
  rw [parse?, Document.parse_of_laidOut h, Option.bind_some]

/-- Every user is read back from its text, and so is the user that was read from some other text.
What is written for that user does not depend on the order of members, on members that are no
fields, on the order in which roles and permissions stand or how often each does, on whether an
identifier that is a whole number is written as a number or as a text, or on white space. Minus
zero is kept as a fraction and is not among the whole numbers. -/
theorem render_normalizes :
    (∀ u : User, parse? u.render = some u) ∧
    ∀ (text : String) (d : Document) (u : User), LaidOut d.tokens text.toList →
      parse? text = some u → parse? u.render = some u ∧
        ∀ (text' : String) (d' : Document), LaidOut d'.tokens text'.toList →
          Relation.EqvGen Variation d d' → (parse? text').map render = some u.render := by
  refine ⟨parse?_render, fun text d u hd hu => ⟨parse?_render u, fun text' d' hd' h => ?_⟩⟩
  rw [parse?_of_laidOut hd] at hu
  rw [parse?_of_laidOut hd', (ofDocument?_of_eqvGen h).1 hu, Option.map_some]

/-- An unknown member goes, the number becomes a text, the members change places, and of the roles
one was repeated. -/
theorem varied_operator_rewritten :
    let text := "\x7b\"lastSeen\":null,\"id\":17,\"roles\":[\"ops\",\"admin\",\"ops\"]\x7d"
    let text' := "\x7b\"roles\":[\"admin\",\"ops\"],\"id\":\"17\"\x7d"
    let u : User := ⟨"17", "", "", TextSet.ofList ["admin", "ops"], ∅, true, false⟩
    parse? text = some u ∧ parse? u.render = some u ∧
      (parse? text').map render = some u.render := by
  intro text text' u
  let roles : Value := .array (["ops", "admin", "ops"].map .text)
  let roles' : Value := .array (["admin", "ops"].map .text)
  have hlaid : ∀ members : List (String × Value),
      LaidOut (Value.object members).document.tokens (renderRecord members).toList := by
    intro members
    rw [renderRecord, Value.toList_render]
    exact Document.parse_eq_some_iff.1 (Document.parse_chars _)
  have htext : text = renderRecord
      [("lastSeen", .null), ("id", .number (.whole 17 (by decide))), ("roles", roles)] := by
    decide +kernel
  have htext' : text' = renderRecord [("roles", roles'), ("id", .text "17")] := by
    decide +kernel
  have hread : parse? text = some u := by decide +kernel
  have hunknown := Variation.unknown (Piece.text?_writtenPieces "lastSeen") (by decide) .null
    (Value.memberDocuments [("id", .number (.whole 17 (by decide))), ("roles", roles)])
  have hid := Variation.member (Piece.text?_writtenPieces "id")
    (SameField.identifier (k := 17) ⟨by decide, by decide⟩ (Piece.text?_writtenPieces "17"))
    (Value.memberDocuments [("roles", roles)])
  have hswap := Variation.reordered (List.Perm.swap (writtenPieces "roles", roles.document)
    (writtenPieces "id", (Value.text "17").document) [])
  have hentries := SameField.entries (Or.inl rfl)
    (Document.mapM_text?_itemDocuments ["ops", "admin", "ops"])
    (Document.mapM_text?_itemDocuments ["admin", "ops"]) (by simp [or_comm])
  have hroles := Variation.member (Piece.text?_writtenPieces "roles") hentries
    (Value.memberDocuments [("id", .text "17")])
  obtain ⟨-, hrewritten⟩ := render_normalizes
  obtain ⟨hback, hsame⟩ := hrewritten text _ u (htext ▸ hlaid _) hread
  refine ⟨hread, hback, hsame text' _ (htext' ▸ hlaid _) ?_⟩
  exact .trans _ _ _ (.rel _ _ hunknown) (.trans _ _ _ (.rel _ _ hid)
    (.trans _ _ _ (.rel _ _ hswap) (.rel _ _ hroles)))

end User

end OpsConsole
