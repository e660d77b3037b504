import OpsConsole.Feed.Frame
import OpsConsole.Proofs.Json.Members
import OpsConsole.Proofs.Json.Scanning

/-!
# Envelopes in any presentation

An envelope may be presented in many ways: as an object with its two members in either order,
among members of other names, with white space between the tokens and the keys in any spelling, or
as an array of the type and the payload. `Envelope.Shows` says which documents present the same
envelope, whose payload may also be left out. What is read depends on the type and the payload
alone. `Envelope.Unreadable` are the objects and arrays that present none.
-/

namespace OpsConsole

open Json

namespace Envelope

/-- The documents that present an envelope with this type and this payload, if it has one. The keys
of an object are texts; one of them is the type, one the payload, and none of the others counts. -/
inductive Shows (type : String) (payload : Option Document) : Document → Prop
  | object {members : List (List Piece × Document)} {p : List Piece}
      (hkeys : ∀ m ∈ members, (Piece.text? m.1).isSome)
      (htype : Document.under "type" members = [.text p]) (hp : Piece.text? p = some type)
      (hpayload : Document.under "data" members = payload.toList) :
    Shows type payload (.object members)
  | array {p : List Piece} (hp : Piece.text? p = some type) :
    Shows type payload (.array (.text p :: payload.toList))

/-- The objects and arrays that present no envelope. -/
inductive Unreadable : Document → Prop
  | repeated {members : List (List Piece × Document)} {name : String}
      (hname : name = "type" ∨ name = "data")
      (h : 2 ≤ (Document.under name members).length) : Unreadable (.object members)
  | untyped {members : List (List Piece × Document)} (h : Document.under "type" members = []) :
    Unreadable (.object members)
  | notText {members : List (List Piece × Document)} {t : Document}
      (h : t ∈ Document.under "type" members) (ht : t.text? = none) : Unreadable (.object members)
  | empty : Unreadable (.array [])
  | firstNotText {t : Document} (ht : t.text? = none) (rest : List Document) :
    Unreadable (.array (t :: rest))
  | long {items : List Document} (h : 2 < items.length) : Unreadable (.array items)

/-- What is read of a type and a payload. -/
def ofParts? (type : String) : Option Document → Option Envelope
  | none => some ⟨type, none⟩
  | some d => (Payload.ofDocument? (nestingLimit - 1) d).map fun p =>
      ⟨type, if p = .null then none else some p⟩

theorem fields?_of_shows {type : String} {payload : Option Document} {shown : Document}
    (h : Shows type payload shown) :
    ∃ t, shown.fields? ["type", "data"] = some [some t, payload] ∧ t.text? = some type := by
  cases h with
  | @object members p hkeys htype hp hpayload =>
    obtain ⟨named, hnamed⟩ := Document.exists_named hkeys
    refine ⟨.text p, ?_, hp⟩
    rw [Document.fields?_object hnamed]
    cases payload <;> simp [htype, hpayload, Document.only?]
  | @array p hp =>
    refine ⟨.text p, ?_, hp⟩
    cases payload <;> rfl

theorem ofDocument?_of_shows {type : String} {payload : Option Document} {shown : Document}
    (h : Shows type payload shown) : ofDocument? shown = ofParts? type payload := by
  obtain ⟨t, hfields, ht⟩ := fields?_of_shows h
  rw [ofDocument?, hfields]
  cases payload with
  | none => simp [ht, ofParts?]
  | some d =>
    simp only [ht, ofParts?]
    rcases Payload.ofDocument? (nestingLimit - 1) d with _ | ⟨v, hv⟩
    · rfl
    · cases v <;> rfl

theorem ofDocument?_of_notText {shown : Document}
    (h : ∀ t payload, shown.fields? ["type", "data"] = some [some t, payload] → t.text? = none) :
    ofDocument? shown = none := by
  rw [ofDocument?]
  split
  · next t hfields => rw [h t none hfields, Option.map_none]
  · next t p hfields => rw [h t (some p) hfields]
  · rfl

theorem only?_of_fields? {members : List (List Piece × Document)} {t : Document}
    {payload : Option Document}
    (h : (Document.object members).fields? ["type", "data"] = some [some t, payload]) :
    Document.only? (Document.under "type" members) = some (some t) := by
  cases hnamed : Document.namedMembers? members with
  | none => simp [Document.fields?, hnamed] at h
  | some named =>
    rw [Document.fields?_object hnamed] at h
    simp only [List.mapM_cons, Option.bind_eq_bind, Option.bind_eq_some_iff] at h
    obtain ⟨first, hfirst, rest, -, heq⟩ := h
    cases heq
    exact hfirst

theorem ofDocument?_of_unreadable {shown : Document} (h : Unreadable shown) :
    ofDocument? shown = none := by
  cases h with
  | repeated hname h =>
    rw [ofDocument?, Document.fields?_of_repeated (by simpa using hname) h]
  | untyped h =>
    refine ofDocument?_of_notText fun t payload hfields => ?_
    have honly := only?_of_fields? hfields
    rw [h] at honly
    cases honly
  | @notText members t h ht =>
    refine ofDocument?_of_notText fun first payload hfields => ?_
    have honly := only?_of_fields? hfields
    rcases hunder : Document.under "type" members with _ | ⟨d, _ | ⟨e, r⟩⟩ <;>
      rw [hunder] at h honly <;> cases honly
    obtain rfl := List.mem_singleton.1 h
    exact ht
  | empty => rfl
  | firstNotText ht rest =>
    refine ofDocument?_of_notText fun first payload hfields => ?_
    rw [Document.fields?] at hfields
    split at hfields
    · obtain rfl := Option.some.inj (List.cons.inj (Option.some.inj hfields)).1
      exact ht
    · cases hfields
  | @long items h =>
    have hfields : (Document.array items).fields? ["type", "data"] = none := if_neg (Nat.not_le.2 h)
    rw [ofDocument?, hfields]

/-- The text of an envelope without any white space. The payload is the text given. -/
def plain (type payload : String) : String :=
  String.ofList ('\x7b' :: (textChars "type" ++ ':' :: (textChars type ++
    ',' :: (textChars "data" ++ ':' :: (payload.toList ++ ['\x7d'])))))

def plainDocument (type : String) (payload : Document) : Document :=
  .object [(writtenPieces "type", .text (writtenPieces type)), (writtenPieces "data", payload)]

theorem laidOut_plain (type : String) {payload : String} {d : Document}
    (h : LaidOut d.tokens payload.toList) :
    LaidOut (plainDocument type d).tokens (plain type payload).toList := by
  rw [plain, String.toList_ofList]
  exact .pair "type" "data" (.written type) h

theorem shows_plain (type : String) (d : Document) :
    Shows type (some d) (plainDocument type d) := by
  have hunder : ∀ name, Document.under name
      [(writtenPieces "type", .text (writtenPieces type)), (writtenPieces "data", d)] =
        (if "type" = name then [.text (writtenPieces type)] else []) ++
          (if "data" = name then [d] else []) := by
    intro name
    by_cases htype : "type" = name <;> by_cases hdata : "data" = name <;>
      simp [Document.under, Piece.text?_writtenPieces, htype, hdata]
  refine .object ?_ (hunder "type") (Piece.text?_writtenPieces type) (hunder "data")
  simp [Piece.text?_writtenPieces]

theorem read?_of_shows {type : String} {payload : Option Document} {shown : Document}
    {raw : String} (hraw : LaidOut shown.tokens raw.toList) (h : Shows type payload shown) :
    read? raw = ofParts? type payload := by
  rw [read?, Document.parse_of_laidOut hraw]
  exact ofDocument?_of_shows h

theorem read?_of_unreadable {shown : Document} {raw : String}
    (hraw : LaidOut shown.tokens raw.toList) (h : Unreadable shown) : read? raw = none := by
  rw [read?, Document.parse_of_laidOut hraw]
  exact ofDocument?_of_unreadable h

end Envelope

namespace Frame

theorem decode_of_size {limit : Nat} {raw : String} (h : Text.Utf8.size raw ≤ limit) :
    decode limit raw = read raw := if_neg (Nat.not_lt.2 h)

theorem read_of_noPayload {topic : Topic} {raw : String}
    (h : Envelope.read? raw = some ⟨topic.wireName, none⟩) :
    read raw = .error (.missingData topic) := by
  simp only [read, h, ofEnvelope, Topic.ofWireName?_wireName]

/-- However an envelope is presented and laid out, it is read as the plain text with the same type
and payload. A document that presents none is refused as such, and an envelope of a known topic
without a payload, or with null for one, as missing it. -/
theorem decode_of_presentation :
    (∀ (type payload raw : String) (d shown : Document),
      LaidOut d.tokens payload.toList → LaidOut shown.tokens raw.toList →
      Envelope.Shows type (some d) shown →
      ∀ limit limit', Text.Utf8.size raw ≤ limit →
        Text.Utf8.size (Envelope.plain type payload) ≤ limit' →
        decode limit raw = decode limit' (Envelope.plain type payload)) ∧
    (∀ (raw : String) (shown : Document), LaidOut shown.tokens raw.toList →
      Envelope.Unreadable shown → ∀ limit, Text.Utf8.size raw ≤ limit →
        decode limit raw = .error .undecodable) ∧
    (∀ (topic : Topic) (raw : String) (shown : Document), LaidOut shown.tokens raw.toList →
      Envelope.Shows topic.wireName none shown ∨
        Envelope.Shows topic.wireName (some .null) shown →
      ∀ limit, Text.Utf8.size raw ≤ limit →
        decode limit raw = .error (.missingData topic)) := by
  refine ⟨?_, ?_, ?_⟩
  · intro type payload raw d shown hpayload hraw hshown limit limit' hsize hsize'
    have hplain := Envelope.read?_of_shows (Envelope.laidOut_plain type hpayload)
      (Envelope.shows_plain type d)
    rw [decode_of_size hsize, decode_of_size hsize', read, read, hplain,
      Envelope.read?_of_shows hraw hshown]
  · intro raw shown hraw hshown limit hsize
    rw [decode_of_size hsize, read, Envelope.read?_of_unreadable hraw hshown]
  · intro topic raw shown hraw hshown limit hsize
    rw [decode_of_size hsize]
    apply read_of_noPayload
    rcases hshown with hshown | hshown <;> rw [Envelope.read?_of_shows hraw hshown] <;> rfl

/-- A sample with its members reordered, escaped keys and a member that is no field. -/
theorem rearranged_metrics_decoded :
    decode 100 (" \x7b \"\\u0064ata\" : [10] ,\n\"extra\":[[1e999]],\t" ++
        "\"\\u0074ype\":\"metrics_update\"\x7d") =
      decode 100 (Envelope.plain "metrics_update" "[10]") ∧
      decode 100 "\x7b\"type\":7\x7d" = .error .undecodable ∧
      decode 100 "[ \"metrics_update\" ]" = .error (.missingData .metricsSample) := by
  have hpayload : LaidOut (Document.array [.number ⟨false, ['1', '0'], [], none⟩]).tokens
      "[10]".toList := Document.parse_eq_some_iff.1 (by rfl)
  have hraw : LaidOut (Document.object
      [([.unit 0x64, .char 'a', .char 't', .char 'a'],
        .array [.number ⟨false, ['1', '0'], [], none⟩]),
      (writtenPieces "extra",
        .array [.array [.number ⟨false, ['1'], [], some (false, ['9', '9', '9'])⟩]]),
      ([.unit 0x74, .char 'y', .char 'p', .char 'e'],
        .text (writtenPieces "metrics_update"))]).tokens
      (" \x7b \"\\u0064ata\" : [10] ,\n\"extra\":[[1e999]],\t" ++
        "\"\\u0074ype\":\"metrics_update\"\x7d").toList :=
    Document.parse_eq_some_iff.1 (by rfl)
  have hnumber : LaidOut (Document.object [(writtenPieces "type",
      .number ⟨false, ['7'], [], none⟩)]).tokens "\x7b\"type\":7\x7d".toList :=
    Document.parse_eq_some_iff.1 (by rfl)
  have halone : LaidOut (Document.array [.text (writtenPieces "metrics_update")]).tokens
      "[ \"metrics_update\" ]".toList := Document.parse_eq_some_iff.1 (by rfl)
  have hmissing : Envelope.Shows Topic.metricsSample.wireName none
      (.array [.text (writtenPieces "metrics_update")]) := .array (by decide)
  obtain ⟨hsame, hrefused, hnone⟩ := decode_of_presentation
  refine ⟨hsame _ _ _ _ _ hpayload hraw ?_ 100 100 (by decide +kernel) (by decide +kernel),
    hrefused _ _ hnumber (.notText (List.mem_singleton_self _) rfl) 100 (by decide +kernel),
    hnone _ _ _ halone (Or.inl hmissing) 100 (by decide +kernel)⟩
  exact .object (by decide) (by rfl) (by decide) (by rfl)

end Frame

end OpsConsole
