import OpsConsole.Json.Proper
import OpsConsole.Proofs.Json.Strings

/-!
# Members of an object

A record is read from an object field by field, each field from the only member of its name. The
value of an object keeps under each name the value of the last member of that name, so if the names
differ the fields are the same in the object and in its value. How much nesting is allowed has no
bearing on what the value of a document is, only on whether there is one; for a flat value one array
is enough.
-/

namespace OpsConsole.Json

namespace Value

/-- Values that hold no others. -/
def isScalar : Value → Bool
  | array _ | object _ => false
  | _ => true

/-- Scalars, and arrays of them. -/
def isFlat : Value → Bool
  | array items => items.all isScalar
  | object _ => false
  | _ => true

theorem fields?_of_isObject {v : Value} (h : v.isObject = true) (names : List String) :
    v.fields? names = some (names.map v.get?) := by
  cases v <;> first | rfl | cases h

theorem member?_eq_none {key : String} {members : List (String × Value)}
    (h : ∀ m ∈ members, m.1 ≠ key) : member? key members = none := by
  induction members with
  | nil => rfl
  | cons m r ih =>
    obtain ⟨hm, hr⟩ := List.forall_mem_cons.1 h
    rw [member?, if_neg hm, ih hr]

theorem member?_placeMember {k : String} {v : Value} {members : List (String × Value)}
    (h : Sorted members) (key : String) :
    member? key (placeMember k v members) =
      (member? key members).or (if k = key then some v else none) := by
  induction members with
  | nil => rfl
  | cons m r ih =>
    obtain ⟨l, w⟩ := m
    obtain ⟨hl, hr⟩ := List.pairwise_cons.1 h
    by_cases hlt : k < l
    · rw [placeMember, if_pos hlt, member?]
      by_cases hkey : k = key
      · subst hkey
        -- The members behind have greater keys, so the new one is the only one of its key.
        have hbehind : ∀ m ∈ (l, w) :: r, m.1 ≠ k := by
          refine List.forall_mem_cons.2 ⟨(String.ne_of_lt hlt).symm, fun m hm => ?_⟩
          exact (String.ne_of_lt (String.lt_trans hlt (hl m hm))).symm
        rw [if_pos rfl, if_pos rfl, member?_eq_none hbehind, Option.none_or]
      · rw [if_neg hkey, if_neg hkey, Option.or_none]
    · by_cases hsame : k = l
      · subst hsame
        rw [placeMember, if_neg hlt, if_pos rfl, member?]
        by_cases hkey : k = key
        · rw [if_pos hkey, Option.some_or]
        · rw [if_neg hkey, if_neg hkey, Option.or_none]
      · rw [placeMember, if_neg hlt, if_neg hsame, member?, member?, ih hr]
        by_cases hkey : l = key
        · rw [if_pos hkey, if_pos hkey, Option.some_or]
        · rw [if_neg hkey, if_neg hkey]

/-- Of several members under a key the last counts. -/
theorem get?_ofMembers (members : List (String × Value)) (key : String) :
    (ofMembers members).get? key = ((members.filter (·.1 = key)).map (·.2)).getLast? := by
  rw [ofMembers, get?]
  induction members with
  | nil => rfl
  | cons m r ih =>
    rw [List.foldr_cons, member?_placeMember (sorted_placed r), ih]
    by_cases hkey : m.1 = key
    · rw [if_pos hkey, List.filter_cons_of_pos (by simpa using hkey), List.map_cons,
        List.getLast?_cons]
      cases ((r.filter (·.1 = key)).map (·.2)).getLast? <;> rfl
    · rw [if_neg hkey, List.filter_cons_of_neg (by simpa using hkey), Option.or_none]

end Value

namespace Document

variable {levels : Nat}

/-- What stands in an object under a name, however the key is spelled. -/
def under (name : String) (members : List (List Piece × Document)) : List Document :=
  (members.filter fun m => Piece.text? m.1 = some name).map (·.2)

/-- The only document of a list, if any; `none` when there are several. -/
def only? : List Document → Option (Option Document)
  | [] => some none
  | [d] => some (some d)
  | _ => none

theorem filter_named {members : List (List Piece × Document)} {named : List (String × Document)}
    (h : namedMembers? members = some named) (name : String) :
    (named.filter (·.1 = name)).map (·.2) = under name members := by
  induction members generalizing named with
  | nil =>
    cases h
    rfl
  | cons m members ih =>
    simp only [namedMembers?, List.mapM_cons, Option.bind_eq_bind, Option.bind_eq_some_iff,
      Option.map_eq_some_iff] at h
    obtain ⟨_, ⟨k, hk, rfl⟩, rest, hrest, heq⟩ := h
    cases heq
    have hunder := ih hrest
    by_cases hname : k = name <;> simpa [under, hk, hname] using hunder

theorem onlyMember?_named {members : List (List Piece × Document)}
    {named : List (String × Document)} (h : namedMembers? members = some named) (name : String) :
    onlyMember? named name = only? (under name members) := by
  rw [onlyMember?, ← filter_named h]
  generalize named.filter (·.1 = name) = found
  rcases found with _ | ⟨m, _ | ⟨n, r⟩⟩ <;> rfl

theorem exists_named {members : List (List Piece × Document)}
    (h : ∀ m ∈ members, (Piece.text? m.1).isSome) :
    ∃ named, namedMembers? members = some named := by
  induction members with
  | nil => exact ⟨[], rfl⟩
  | cons m members ih =>
    obtain ⟨k, hk⟩ := Option.isSome_iff_exists.1 (h m List.mem_cons_self)
    obtain ⟨named, hnamed⟩ := ih fun n hn => h n (List.mem_cons_of_mem _ hn)
    refine ⟨(k, m.2) :: named, ?_⟩
    simp only [namedMembers?] at hnamed ⊢
    simp [hk, hnamed]

theorem fields?_object {members : List (List Piece × Document)}
    {named : List (String × Document)} (h : namedMembers? members = some named)
    (names : List String) :
    (object members).fields? names = names.mapM fun name => only? (under name members) := by
  rw [fields?, h, Option.bind_some]
  congr 1
  funext name
  exact onlyMember?_named h name

theorem only?_of_several {ds : List Document} (h : 2 ≤ ds.length) : only? ds = none := by
  rcases ds with _ | ⟨d, _ | ⟨e, r⟩⟩
  · cases h
  · exact (Nat.lt_irrefl _ h).elim
  · rfl

theorem mapM_eq_none_of_mem {α β : Type} {f : α → Option β} {l : List α} {a : α} (ha : a ∈ l)
    (h : f a = none) : l.mapM f = none := by
  induction l with
  | nil => cases ha
  | cons b l ih =>
    rw [List.mapM_cons]
    rcases List.mem_cons.1 ha with rfl | hrest
    · rw [h]
      rfl
    · rw [ih hrest]
      cases f b <;> rfl

theorem fields?_of_repeated {members : List (List Piece × Document)} {names : List String}
    {name : String} (hname : name ∈ names) (h : 2 ≤ (under name members).length) :
    (object members).fields? names = none := by
  cases hnamed : namedMembers? members with
  | none => rw [fields?, hnamed, Option.bind_none]
  | some named =>
    rw [fields?_object hnamed]
    exact mapM_eq_none_of_mem hname (only?_of_several h)

/-- The names differ, so at most one member stands under each. -/
theorem only?_under {members : List (List Piece × Document)}
    (h : (members.map (Piece.text? ·.1)).Nodup) (name : String) :
    only? (under name members) = some (under name members).getLast? := by
  have hdiffer : (members.filter fun m => Piece.text? m.1 = some name).Pairwise
      (Piece.text? ·.1 ≠ Piece.text? ·.1) := (List.pairwise_map.1 h).filter _
  have hsame : ∀ m ∈ members.filter fun m => Piece.text? m.1 = some name,
      Piece.text? m.1 = some name := fun m hm => by simpa using (List.mem_filter.1 hm).2
  rw [under]
  generalize members.filter (fun m => Piece.text? m.1 = some name) = found at hdiffer hsame
  rcases found with _ | ⟨a, _ | ⟨b, r⟩⟩
  · rfl
  · rfl
  · have ha := hsame a List.mem_cons_self
    have hb := hsame b (List.mem_cons_of_mem a List.mem_cons_self)
    exact (List.rel_of_pairwise_cons hdiffer List.mem_cons_self (ha.trans hb.symm)).elim

theorem fields?_of_nodup {members : List (List Piece × Document)}
    (hkeys : ∀ m ∈ members, (Piece.text? m.1).isSome)
    (h : (members.map (Piece.text? ·.1)).Nodup) (names : List String) :
    (object members).fields? names =
      some (names.map fun name => (under name members).getLast?) := by
  obtain ⟨named, hnamed⟩ := exists_named hkeys
  simp only [fields?_object hnamed, only?_under h]
  exact List.mapM_pure

theorem fields?_written {first second : String} (h : first ≠ second) (d e : Document) :
    (object [(writtenPieces first, d), (writtenPieces second, e)]).fields? [first, second] =
      some [some d, some e] := by
  rw [fields?_of_nodup] <;> simp [Piece.text?_writtenPieces, under, h, h.symm]

theorem membersOnto_eq_some {out : List (String × Value)} {v : Value}
    {members : List (List Piece × Document)} (h : membersOnto levels out members = some v) :
    (∀ m ∈ members, (Piece.text? m.1).isSome ∧ (m.2.value? levels).isSome) ∧
      ∃ pairs, v = .ofMembers (out.reverse ++ pairs) ∧
        ∀ name, (under name members).map (value? levels) =
          ((pairs.filter (·.1 = name)).map (·.2)).map some := by
  induction members generalizing out with
  | nil =>
    cases h
    exact ⟨nofun, [], by rw [List.append_nil], fun _ => rfl⟩
  | cons m members ih =>
    obtain ⟨k, d⟩ := m
    rw [membersOnto] at h
    split at h
    · next key w hk hw =>
      obtain ⟨hall, pairs, rfl, hunder⟩ := ih h
      refine ⟨List.forall_mem_cons.2 ⟨⟨by rw [hk]; rfl, by rw [hw]; rfl⟩, hall⟩,
        (key, w) :: pairs, by simp, fun name => ?_⟩
      have hrest := hunder name
      by_cases hname : key = name <;> simpa [under, hk, hw, hname] using hrest
    · cases h

theorem get?_of_value? {members : List (List Piece × Document)} {v : Value}
    (h : (object members).value? (levels + 1) = some v) (name : String) :
    v.get? name = (under name members).getLast?.bind (value? levels) := by
  obtain ⟨-, pairs, rfl, hunder⟩ := membersOnto_eq_some h
  have hlast := congrArg List.getLast? (hunder name)
  rw [List.getLast?_map, List.getLast?_map] at hlast
  rw [List.reverse_nil, List.nil_append, Value.get?_ofMembers]
  cases hunder : (under name members).getLast? with
  | none =>
    rw [hunder, Option.map_none] at hlast
    exact Option.map_eq_none_iff.1 hlast.symm
  | some d =>
    rw [hunder, Option.map_some] at hlast
    obtain ⟨w, hw, heq⟩ := Option.map_eq_some_iff.1 hlast.symm
    rw [hw, Option.bind_some, ← heq]

theorem exists_object_of_value? {d : Document} {placed : List (String × Value)}
    (h : d.value? levels = some (.object placed)) : ∃ members, d = .object members := by
  cases d with
  | object members => exact ⟨members, rfl⟩
  | array items =>
    cases levels with
    | zero => cases h
    | succ levels =>
      obtain ⟨_, heq, -, -⟩ := itemsOnto_proper items h
      cases heq
  | number n =>
    obtain ⟨_, -, heq⟩ := Option.map_eq_some_iff.1 h
    cases heq
  | text p =>
    obtain ⟨_, -, heq⟩ := Option.map_eq_some_iff.1 h
    cases heq
  | _ => cases h

theorem isObject_of_value? {members : List (List Piece × Document)} {v : Value}
    (h : (object members).value? (levels + 1) = some v) : v.isObject = true := by
  obtain ⟨-, pairs, rfl, -⟩ := membersOnto_eq_some h
  rfl

mutual
/-- A value does not depend on how much nesting is allowed. -/
theorem value?_mono {m n : Nat} (hle : m ≤ n) {v : Value} :
    (d : Document) → d.value? m = some v → d.value? n = some v
  | .null, h => h
  | .boolean _, h => h
  | .number _, h => h
  | .text _, h => h
  | .array items, h => by
    cases m with
    | zero => cases h
    | succ m =>
      cases n with
      | zero => exact (Nat.not_succ_le_zero m hle).elim
      | succ n => exact itemsOnto_mono (Nat.le_of_succ_le_succ hle) items h
  | .object members, h => by
    cases m with
    | zero => cases h
    | succ m =>
      cases n with
      | zero => exact (Nat.not_succ_le_zero m hle).elim
      | succ n => exact membersOnto_mono (Nat.le_of_succ_le_succ hle) members h
theorem itemsOnto_mono {m n : Nat} (hle : m ≤ n) {out : List Value} {v : Value} :
    (ds : List Document) → itemsOnto m out ds = some v → itemsOnto n out ds = some v
  | [], h => h
  | d :: r, h => by
    rw [itemsOnto] at h ⊢
    split at h
    · cases h
    · next w hw =>
      rw [value?_mono hle d hw]
      exact itemsOnto_mono hle r h
theorem membersOnto_mono {m n : Nat} (hle : m ≤ n) {out : List (String × Value)} {v : Value} :
    (ds : List (List Piece × Document)) → membersOnto m out ds = some v →
      membersOnto n out ds = some v
  | [], h => h
  | (k, d) :: r, h => by
    rw [membersOnto] at h ⊢
    split at h
    · next key w hk hw =>
      rw [hk, value?_mono hle d hw]
      exact membersOnto_mono hle r h
    · cases h
end

variable {m n : Nat}

theorem value?_of_isScalar {d : Document} {v : Value} (h : d.value? m = some v)
    (hv : v.isScalar = true) : d.value? n = some v := by
  cases d with
  | array items =>
    cases m with
    | zero => cases h
    | succ m =>
      obtain ⟨_, rfl, -, -⟩ := itemsOnto_proper items h
      cases hv
  | object members =>
    cases m with
    | zero => cases h
    | succ m =>
      obtain ⟨-, _, rfl, -⟩ := membersOnto_eq_some h
      cases hv
  | _ => exact h

theorem itemsOnto_of_isFlat {ds : List Document} {out : List Value} {v : Value}
    (h : itemsOnto m out ds = some v) (hv : v.isFlat = true) : itemsOnto n out ds = some v := by
  induction ds generalizing out with
  | nil => exact h
  | cons d r ih =>
    rw [itemsOnto] at h ⊢
    split at h
    · cases h
    · next w hw =>
      obtain ⟨items, rfl, -, -⟩ := itemsOnto_proper r h
      have hscalar : w.isScalar = true := List.all_eq_true.1 hv w (by simp)
      rw [value?_of_isScalar hw hscalar]
      exact ih h

/-- One array is nesting enough for a flat value. -/
theorem value?_of_isFlat {d : Document} {v : Value} (h : d.value? m = some v)
    (hv : v.isFlat = true) : d.value? (n + 1) = some v := by
  cases d with
  | array items =>
    cases m with
    | zero => cases h
    | succ m => exact itemsOnto_of_isFlat h hv
  | object members =>
    cases m with
    | zero => cases h
    | succ m =>
      obtain ⟨-, _, rfl, -⟩ := membersOnto_eq_some h
      cases hv
  | _ => exact h

end Document

end OpsConsole.Json
