import OpsConsole.Backend.Accounts
import OpsConsole.Proofs.Access.UserText

/-!
# One user, three readings

A user comes in the reply to a sign-in, read straight from the text, and in the reply to the
question who a token stands for, read from a value, where it may stand alone or under `user`. The
fields of a user are flat, so straight reading, which allows them one array, loses none that the
value would give. When the names of the object differ all three readings find the same user or none:
what a session permits does not depend on whether it began with credentials or was resumed.
-/

namespace OpsConsole

open Json

/-! ### Fields -/

namespace User

variable {levels : Nat} {u : User}

theorem isFlat_of_identifier? {v : Value} {id : String} (h : v.identifier? = some id) :
    v.isFlat = true := by
  cases v <;> first | rfl | cases h

theorem isFlat_of_text? {v : Value} {s : String} (h : v.text? = some s) : v.isFlat = true := by
  cases v <;> first | rfl | cases h

theorem isFlat_of_boolean? {v : Value} {b : Bool} (h : v.boolean? = some b) : v.isFlat = true := by
  cases v <;> first | rfl | cases h

theorem isScalar_of_mapM_text? {items : List Value} {texts : List String}
    (h : items.mapM Value.text? = some texts) : items.all Value.isScalar = true := by
  induction items generalizing texts with
  | nil => rfl
  | cons v items ih =>
    simp only [List.mapM_cons, Option.bind_eq_bind, Option.bind_eq_some_iff] at h
    obtain ⟨s, hs, rest, hrest, -⟩ := h
    have hv : v.isScalar = true := by cases v <;> first | rfl | cases hs
    rw [List.all_cons, hv, ih hrest]
    rfl

theorem isFlat_of_textSet? {v : Value} {s : TextSet} (h : textSet? v = some s) :
    v.isFlat = true := by
  obtain ⟨texts, htexts, -⟩ := Option.map_eq_some_iff.1 h
  cases v with
  | array items => exact isScalar_of_mapM_text? htexts
  | _ => first | rfl | cases htexts

theorem isFlat_of_optional {α : Type} {read : Value → Option α} {default a : α}
    (hread : ∀ {v b}, read v = some b → v.isFlat = true) {field : Option Value}
    (h : optional read default field = some a) : ∀ v ∈ field, v.isFlat = true := by
  rintro v rfl
  exact hread h

theorem Says.isFlat {name : String} {field : Option Value} (h : u.Says name field) :
    ∀ v ∈ field, v.isFlat = true := by
  unfold Says at h
  split at h
  · rintro v rfl
    exact isFlat_of_identifier? h
  · exact isFlat_of_optional isFlat_of_text? h
  · exact isFlat_of_optional isFlat_of_text? h
  · exact isFlat_of_optional isFlat_of_textSet? h
  · exact isFlat_of_optional isFlat_of_textSet? h
  · exact isFlat_of_optional isFlat_of_boolean? h
  · exact isFlat_of_optional isFlat_of_boolean? h
  · cases h

/-- A field that has a value says the same of a user, whether an array is all it may hold or not. -/
theorem shows_iff_says {name : String} {d : Option Document}
    (hd : ∀ e ∈ d, (e.value? (levels + 1)).isSome) :
    u.Shows name d ↔ u.Says name (d.bind (Document.value? (levels + 1))) := by
  cases d with
  | none => simp [Shows, fieldValue?]
  | some e =>
    obtain ⟨w, hw⟩ := Option.isSome_iff_exists.1 (hd e rfl)
    rw [Shows, Option.bind_some, hw]
    constructor
    · rintro ⟨field, hfield, hu⟩
      obtain ⟨v, hv, rfl⟩ := Option.map_eq_some_iff.1 hfield
      rwa [← hw, Document.value?_of_isFlat hv (hu.isFlat v rfl)]
    · intro hu
      exact ⟨some w, by rw [fieldValue?, Document.value?_of_isFlat hw (hu.isFlat w rfl)]; rfl,
        hu⟩

theorem ofValue?_of_isObject {v : Value} (hv : v.isObject = true) :
    ofValue? v = some u ↔ ∀ name ∈ fieldNames, u.Says name (v.get? name) := by
  rw [ofValue?, Value.fields?_of_isObject hv, Option.bind_some, ofFields_eq_some_iff,
    List.forall₂_map_right_iff, List.forall₂_same]

/-- Straight reading and reading from the value agree. -/
theorem ofValue?_of_value? {members : List (List Piece × Document)} {v : Value}
    (hnames : (members.map (Piece.text? ·.1)).Nodup)
    (hv : (Document.object members).value? (levels + 2) = some v) :
    ofValue? v = ofDocument? (.object members) := by
  obtain ⟨hall, -⟩ := Document.membersOnto_eq_some hv
  ext u
  rw [ofValue?_of_isObject (Document.isObject_of_value? hv), ofDocument?_object_iff,
    and_iff_right fun m hm => (hall m hm).1]
  refine forall₂_congr fun name _ => ?_
  have hfield : ∀ e ∈ (Document.under name members).getLast?, (e.value? (levels + 1)).isSome := by
    intro e he
    obtain ⟨m, hm, rfl⟩ := List.mem_map.1 (List.mem_of_getLast? he)
    exact (hall m (List.mem_of_mem_filter hm)).2
  rw [Document.get?_of_value? hv, Document.only?_under hnames, ← shows_iff_says hfield]
  simp

end User

/-! ### Replies -/

/-- The texts of objects that can be read either way: the names of the members differ, the object
has a value also where it is nested in another one, and what stands under `user`, if anything
does, is no object itself. -/
structure Enclosable (text : String) (members : List (List Piece × Document)) : Prop where
  parse : Document.parse text.toList = some (.object members)
  names : (members.map (Piece.text? ·.1)).Nodup
  value : ((Document.object members).value? (nestingLimit - 1)).isSome
  user : ∀ inner, Document.object inner ∉ Document.under "user" members

namespace Reply

def signInText (token user : String) : String :=
  "\x7b\"token\":" ++ (Value.text token).render ++ ",\"user\":" ++ user ++ "\x7d"

def enclosed (user : String) : String := "\x7b\"user\":" ++ user ++ "\x7d"

theorem parse_signInText (token : String) {user : String} {d : Document}
    (h : Document.parse user.toList = some d) :
    Document.parse (signInText token user).toList =
      some (.object [(writtenPieces "token", .text (writtenPieces token)),
        (writtenPieces "user", d)]) := by
  have hchars : (signInText token user).toList = '\x7b' :: (textChars "token" ++ ':' ::
      (textChars token ++ ',' :: (textChars "user" ++ ':' :: (user.toList ++ ['\x7d'])))) := by
    simp [signInText, Value.toList_render, Value.chars, textChars, escape]
  rw [Document.parse_eq_some_iff] at h ⊢
  rw [hchars]
  exact .pair "token" "user" (.written token) h

theorem parse_enclosed {user : String} {d : Document}
    (h : Document.parse user.toList = some d) :
    Document.parse (enclosed user).toList = some (.object [(writtenPieces "user", d)]) := by
  have hchars : (enclosed user).toList =
      '\x7b' :: (textChars "user" ++ ':' :: (user.toList ++ ['\x7d'])) := by
    simp [enclosed, textChars, escape]
  rw [Document.parse_eq_some_iff] at h ⊢
  rw [hchars]
  exact .spell .openObject
    ((LaidOut.written "user").append (.spell .colon (h.append (.single .closeObject))))

def success (status : Nat) (text : String) : Reply :=
  ⟨status, none, some (Text.Utf8.encode text)⟩

variable {status : Nat}

theorem isSuccess_success (h : 200 ≤ status ∧ status < 300) (text : String) :
    (success status text).isSuccess = true := by
  simp [success, isSuccess, h.1, h.2]

theorem signInReply_success (h : 200 ≤ status ∧ status < 300) (text : String) :
    (success status text).signInReply =
      match SignInReply.parse? (Text.Utf8.encode text) with
      | none => .error unreadable
      | some reply => .ok reply := by
  rw [signInReply, isSuccess_success h, success, Option.bind_some]
  rfl

theorem user_success (h : 200 ≤ status ∧ status < 300) (text : String) :
    (success status text).user =
      match user? (Text.Utf8.encode text) with
      | none => .error .undecodable
      | some u => .ok u := by
  have hauthorized : (success status text).isUnauthorized = false := by
    simp only [success, isUnauthorized, beq_eq_false_iff_ne]
    exact Nat.ne_of_lt (Nat.lt_trans h.2 (by decide))
  rw [user, hauthorized, isSuccess_success h, success, Option.bind_some]
  rfl

end Reply

theorem SignInReply.parse?_signInText {user : String} {d : Document}
    (h : Document.parse user.toList = some d) (token : String) :
    parse? (Text.Utf8.encode (Reply.signInText token user)) =
      (User.ofDocument? d).map fun u => ⟨token, u⟩ := by
  rw [parse?, Document.parseBytes_encode, Reply.parse_signInText token h, Option.bind_some,
    ofDocument?, Document.fields?_written (by decide)]
  simp only [Document.text?, Piece.text?_writtenPieces]
  cases User.ofDocument? d <;> rfl

namespace Enclosable

variable {text : String} {members : List (List Piece × Document)}

theorem userValue_eq (h : Enclosable text members) {levels : Nat} {v : Value}
    (hv : (Document.object members).value? (levels + 1) = some v) : Reply.userValue v = v := by
  rw [Reply.userValue, Document.get?_of_value? hv]
  split
  · next inner hinner =>
    obtain ⟨d, hd, hread⟩ := Option.bind_eq_some_iff.1 hinner
    cases inner with
    | object placed =>
      obtain ⟨_, rfl⟩ := Document.exists_object_of_value? hread
      exact (h.user _ (List.mem_of_getLast? hd)).elim
    | _ => rfl
  · rfl

theorem user?_encode (h : Enclosable text members) :
    Reply.user? (Text.Utf8.encode text) = User.ofDocument? (.object members) := by
  obtain ⟨v, hv⟩ := Option.isSome_iff_exists.1 h.value
  -- Alone the object may nest one level more than it does under `user`.
  have hlonger := Document.value?_mono (Nat.sub_le nestingLimit 1) _ hv
  have hread : Reply.value? (Text.Utf8.encode text) = some v := by
    rw [Reply.value?, Text.Utf8.strict?_encode, Option.bind_some, Json.parse, h.parse]
    exact hlonger
  rw [Reply.user?, hread]
  exact (congrArg User.ofValue? (h.userValue_eq hlonger)).trans
    (User.ofValue?_of_value? h.names hlonger)

theorem user?_encode_enclosed (h : Enclosable text members) :
    Reply.user? (Text.Utf8.encode (Reply.enclosed text)) = User.ofDocument? (.object members) := by
  obtain ⟨v, hv⟩ := Option.isSome_iff_exists.1 h.value
  have hread : Reply.value? (Text.Utf8.encode (Reply.enclosed text)) =
      some (.object [("user", v)]) := by
    rw [Reply.value?, Text.Utf8.strict?_encode, Option.bind_some, Json.parse,
      Reply.parse_enclosed h.parse, Option.bind_some]
    change Document.membersOnto (nestingLimit - 1) [] [(writtenPieces "user", _)] = _
    rw [Document.membersOnto, Piece.text?_writtenPieces, hv]
    rfl
  have hinner : Reply.userValue (.object [("user", v)]) = v :=
    if_pos (Document.isObject_of_value? hv)
  rw [Reply.user?, hread]
  exact (congrArg User.ofValue? hinner).trans (User.ofValue?_of_value? h.names hv)

/-- The reply to a sign-in, the reply that is a user and the reply that holds one under `user` are
read alike: nothing is made of any of them, or the same user, who is permitted the same whether
signed in or resumed. -/
theorem readings_agree (h : Enclosable text members) (token : String) {status : Nat}
    (hstatus : 200 ≤ status ∧ status < 300) :
    let signIn := (Reply.success status (Reply.signInText token text)).signInReply
    let alone := (Reply.success status text).user
    let named := (Reply.success status (Reply.enclosed text)).user
    match User.parse? text with
    | none =>
      signIn = .error Reply.unreadable ∧ alone = .error .undecodable ∧
        named = .error .undecodable
    | some u =>
      signIn = .ok ⟨token, u⟩ ∧ alone = .ok u ∧ named = .ok u ∧
        ∀ session, SignInReply.session? ⟨token, u⟩ = some session →
          ∀ saved claim, satisfies (some session) claim = satisfies (some ⟨saved, u⟩) claim := by
  have hdirect : User.parse? text = User.ofDocument? (.object members) := by
    rw [User.parse?, h.parse, Option.bind_some]
  dsimp only
  rw [Reply.signInReply_success hstatus, Reply.user_success hstatus, Reply.user_success hstatus,
    SignInReply.parse?_signInText h.parse, h.user?_encode, h.user?_encode_enclosed, hdirect]
  cases User.ofDocument? (.object members) with
  | none => exact ⟨rfl, rfl, rfl⟩
  | some u =>
    refine ⟨rfl, rfl, rfl, fun session hsession saved claim => ?_⟩
    obtain ⟨bearer, -, rfl⟩ := Option.map_eq_some_iff.1 hsession
    rfl

/-- A user whose members are in no order, with a role named twice, a number for an identifier, an
escaped key and a member of another name. -/
theorem readings_of_operator :
    let text := "\x7b\"roles\":[\"ops\",\"ops\"],\"user\":null,\"\\u0069d\":7\x7d"
    let u : User := ⟨"7", "", "", TextSet.ofList ["ops"], ∅, true, false⟩
    ∃ members, Enclosable text members ∧ User.parse? text = some u ∧
      (Reply.success 200 (Reply.signInText "t" text)).signInReply = .ok ⟨"t", u⟩ ∧
      (Reply.success 200 text).user = .ok u ∧
      (Reply.success 200 (Reply.enclosed text)).user = .ok u := by
  intro text u
  have huser : User.parse? text = some u := by decide +kernel
  let members : List (List Piece × Document) :=
    [("roles".toList.map .char,
        .array [.text ("ops".toList.map .char), .text ("ops".toList.map .char)]),
      ("user".toList.map .char, .null),
      ([.unit 0x69, .char 'd'], .number ⟨false, ['7'], [], none⟩)]
  have hparse : Document.parse text.toList = some (.object members) := by
    dsimp only [text, members]
    with_unfolding_all rfl
  have hunder : Document.under "user" members = [.null] := by
    dsimp only [members]
    with_unfolding_all rfl
  have henclosable : Enclosable text members :=
    ⟨hparse, by decide +kernel, by decide +kernel, by rw [hunder]; simp⟩
  have hagree := henclosable.readings_agree "t" (show 200 ≤ 200 ∧ 200 < 300 by decide)
  rw [huser] at hagree
  exact ⟨members, henclosable, huser, hagree.1, hagree.2.1, hagree.2.2.1⟩

end Enclosable

end OpsConsole
