import OpsConsole.Json.Document
import OpsConsole.Text.Sorted

/-!
# Proper values

A value is proper when the members of each object in it are in increasing order of their keys, each
key once. Whatever members an object is made of, it is proper when their values are. So every value
that is read from a document is proper, and it nests no deeper than the reader allows.
-/

namespace OpsConsole.Json

namespace Value

def Sorted (members : List (String × Value)) : Prop := members.Pairwise (·.1 < ·.1)

instance (members : List (String × Value)) : Decidable (Sorted members) :=
  inferInstanceAs (Decidable (members.Pairwise (·.1 < ·.1)))

mutual
def Proper : Value → Prop
  | .array items => ItemsProper items
  | .object members => Sorted members ∧ MembersProper members
  | _ => True
def ItemsProper : List Value → Prop
  | [] => True
  | v :: r => Proper v ∧ ItemsProper r
def MembersProper : List (String × Value) → Prop
  | [] => True
  | (_, v) :: r => Proper v ∧ MembersProper r
end

mutual
def decidableProper : (v : Value) → Decidable v.Proper
  | .null | .boolean _ | .number _ | .text _ => .isTrue trivial
  | .array items => decidableItemsProper items
  | .object members =>
    have := decidableMembersProper members
    inferInstanceAs (Decidable (Sorted members ∧ MembersProper members))
def decidableItemsProper : (items : List Value) → Decidable (ItemsProper items)
  | [] => .isTrue trivial
  | v :: r =>
    have := decidableProper v
    have := decidableItemsProper r
    inferInstanceAs (Decidable (Proper v ∧ ItemsProper r))
def decidableMembersProper :
    (members : List (String × Value)) → Decidable (MembersProper members)
  | [] => .isTrue trivial
  | (_, v) :: r =>
    have := decidableProper v
    have := decidableMembersProper r
    inferInstanceAs (Decidable (Proper v ∧ MembersProper r))
end

instance (v : Value) : Decidable v.Proper := decidableProper v

theorem proper_object {members : List (String × Value)} (hs : Sorted members)
    (hm : MembersProper members) : (object members).Proper := ⟨hs, hm⟩

theorem membersProper_iff {members : List (String × Value)} :
    MembersProper members ↔ ∀ m ∈ members, m.2.Proper := by
  induction members with
  | nil => simp [MembersProper]
  | cons m r ih =>
    obtain ⟨k, v⟩ := m
    simp [MembersProper, ih]

theorem depthMembers_le_iff {members : List (String × Value)} {n : Nat} :
    depthMembers members ≤ n ↔ ∀ m ∈ members, m.2.depth ≤ n := by
  induction members with
  | nil => simp [depthMembers]
  | cons m r ih =>
    obtain ⟨k, v⟩ := m
    rw [depthMembers, Nat.max_le, ih, List.forall_mem_cons]

theorem mem_of_mem_placeMember {k : String} {v : Value} {m : String × Value}
    {members : List (String × Value)} (h : m ∈ placeMember k v members) :
    m = (k, v) ∨ m ∈ members := by
  induction members with
  | nil => simpa [placeMember] using h
  | cons n r ih =>
    simp only [placeMember] at h
    split at h
    · simpa using h
    · split at h
      · exact Or.inr h
      · rcases List.mem_cons.1 h with hhead | htail
        · exact Or.inr (by simp [hhead])
        · rcases ih htail with hnew | hold
          · exact Or.inl hnew
          · exact Or.inr (List.mem_cons_of_mem n hold)

theorem sorted_placeMember {k : String} {v : Value} {members : List (String × Value)}
    (h : Sorted members) : Sorted (placeMember k v members) := by
  induction members with
  | nil => simp [Sorted, placeMember]
  | cons m r ih =>
    obtain ⟨hm, hr⟩ := List.pairwise_cons.1 h
    simp only [placeMember]
    split
    · next hk =>
      refine List.pairwise_cons.2 ⟨?_, h⟩
      intro n hn
      rcases List.mem_cons.1 hn with rfl | hn
      · exact hk
      · exact String.lt_trans hk (hm n hn)
    · next hk =>
      split
      · exact h
      · next hne =>
        refine List.pairwise_cons.2 ⟨?_, ih hr⟩
        intro n hn
        rcases mem_of_mem_placeMember hn with rfl | hn
        · exact TextSet.lt_of_not hk hne
        · exact hm n hn

theorem sorted_placed (members : List (String × Value)) :
    Sorted (members.foldr (fun m placed => placeMember m.1 m.2 placed) []) := by
  induction members with
  | nil => exact List.Pairwise.nil
  | cons m r ih => exact sorted_placeMember ih

theorem placed_members (members : List (String × Value)) :
    ∃ placed, ofMembers members = .object placed ∧ Sorted placed ∧
      ∀ m ∈ placed, m ∈ members := by
  refine ⟨_, rfl, sorted_placed members, ?_⟩
  induction members with
  | nil => exact fun _ h => h
  | cons m r ih =>
    intro n hn
    rcases mem_of_mem_placeMember hn with rfl | hn
    · exact List.mem_cons_self
    · exact List.mem_cons_of_mem m (ih n hn)

theorem ofMembers_of_sorted {members : List (String × Value)} (h : Sorted members) :
    ofMembers members = .object members := by
  have hplaced : members.foldr (fun m placed => placeMember m.1 m.2 placed) [] = members := by
    induction members with
    | nil => rfl
    | cons m r ih =>
      obtain ⟨hm, hr⟩ := List.pairwise_cons.1 h
      rw [List.foldr_cons, ih hr]
      cases r with
      | nil => rfl
      | cons n r => rw [placeMember, if_pos (hm n List.mem_cons_self)]
  rw [ofMembers, hplaced]

end Value

namespace Document

mutual
/-- A value that is read is proper and nests no deeper than allowed. -/
theorem value?_proper {levels : Nat} {v : Value} :
    (d : Document) → d.value? levels = some v → v.depth ≤ levels ∧ v.Proper
  | .null, h => by
    cases h
    exact ⟨Nat.zero_le _, trivial⟩
  | .boolean b, h => by
    cases h
    exact ⟨Nat.zero_le _, trivial⟩
  | .number n, h => by
    obtain ⟨m, -, rfl⟩ := Option.map_eq_some_iff.1 h
    exact ⟨Nat.zero_le _, trivial⟩
  | .text p, h => by
    obtain ⟨s, -, rfl⟩ := Option.map_eq_some_iff.1 h
    exact ⟨Nat.zero_le _, trivial⟩
  | .array ds, h => by
    cases levels with
    | zero => cases h
    | succ levels =>
      obtain ⟨items, rfl, hdepth, hproper⟩ := itemsOnto_proper ds h
      exact ⟨Nat.succ_le_succ hdepth, hproper⟩
  | .object ds, h => by
    cases levels with
    | zero => cases h
    | succ levels =>
      obtain ⟨members, rfl, hmembers⟩ := membersOnto_proper ds h
      obtain ⟨placed, heq, hsorted, hmem⟩ := Value.placed_members members
      rw [List.reverse_nil, List.nil_append, heq]
      have hplaced : ∀ m ∈ placed, m.2.depth ≤ levels ∧ m.2.Proper :=
        fun m hm => hmembers m (hmem m hm)
      exact ⟨Nat.succ_le_succ (Value.depthMembers_le_iff.2 fun m hm => (hplaced m hm).1),
        hsorted, Value.membersProper_iff.2 fun m hm => (hplaced m hm).2⟩
theorem itemsOnto_proper {levels : Nat} {out : List Value} {v : Value} :
    (ds : List Document) → itemsOnto levels out ds = some v →
      ∃ items, v = .array (out.reverse ++ items) ∧ Value.depthItems items ≤ levels ∧
        Value.ItemsProper items
  | [], h => by
    cases h
    exact ⟨[], by rw [List.append_nil], Nat.zero_le _, trivial⟩
  | d :: r, h => by
    rw [itemsOnto] at h
    split at h
    · cases h
    · next w hw =>
      obtain ⟨hdepth, hproper⟩ := value?_proper d hw
      obtain ⟨items, rfl, hdepths, hpropers⟩ := itemsOnto_proper r h
      exact ⟨w :: items, by simp, Nat.max_le.2 ⟨hdepth, hdepths⟩, hproper, hpropers⟩
theorem membersOnto_proper {levels : Nat} {out : List (String × Value)} {v : Value} :
    (ds : List (List Piece × Document)) → membersOnto levels out ds = some v →
      ∃ members, v = .ofMembers (out.reverse ++ members) ∧
        ∀ m ∈ members, m.2.depth ≤ levels ∧ m.2.Proper
  | [], h => by
    cases h
    exact ⟨[], by rw [List.append_nil], nofun⟩
  | (k, d) :: r, h => by
    rw [membersOnto] at h
    split at h
    · next key w _ hw =>
      have hread := value?_proper d hw
      obtain ⟨members, rfl, hmembers⟩ := membersOnto_proper r h
      refine ⟨(key, w) :: members, by simp, ?_⟩
      intro m hm
      rcases List.mem_cons.1 hm with rfl | hm
      · exact hread
      · exact hmembers m hm
    · cases h
end

end Document

end OpsConsole.Json
