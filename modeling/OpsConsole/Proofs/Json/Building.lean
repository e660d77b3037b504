import Mathlib.Data.List.Chain
import OpsConsole.Json.Document

/-!
# The tokens of a document

A document has one list of tokens. Building takes these tokens to that document, whatever arrays
and objects are open around it. It takes no other tokens there: a state of the builder determines
what it has consumed. In the tokens of a document no number stands directly in front of another, so
each number of a text can be told from what follows it.
-/

namespace OpsConsole.Json

namespace Document

mutual
def tokens : Document → List Token
  | .null => [.null]
  | .boolean b => [.boolean b]
  | .number n => [.number n]
  | .text p => [.text p]
  | .array [] => [.openArray, .closeArray]
  | .array (d :: r) => .openArray :: (tokens d ++ itemsTokens r)
  | .object [] => [.openObject, .closeObject]
  | .object ((k, d) :: r) =>
    .openObject :: .text k :: .colon :: (tokens d ++ membersTokens r)
/-- The items after the first, and the bracket. -/
def itemsTokens : List Document → List Token
  | [] => [.closeArray]
  | d :: r => .comma :: (tokens d ++ itemsTokens r)
def membersTokens : List (List Piece × Document) → List Token
  | [] => [.closeObject]
  | (k, d) :: r => .comma :: .text k :: .colon :: (tokens d ++ membersTokens r)
end

theorem exists_tokens_cons (d : Document) : ∃ t ts, d.tokens = t :: ts ∧ t ≠ .closeArray := by
  cases d with
  | array items => cases items <;> simp [tokens]
  | object members =>
    cases members with
    | nil => simp [tokens]
    | cons m r =>
      obtain ⟨k, d⟩ := m
      simp [tokens]
  | _ => simp [tokens]

end Document

namespace Build

theorem run_cons_of_step {b c : Build} {t : Token} (h : b.step t = some c) (rest : List Token) :
    run b (t :: rest) = run c rest := by
  rw [run, h]

theorem run_firstItem (levels : List Level) (d : Document) (rest : List Token) :
    run ⟨levels, .firstItem⟩ (d.tokens ++ rest) =
      run ⟨.array [] :: levels, .value⟩ (d.tokens ++ rest) := by
  obtain ⟨t, ts, htokens, hne⟩ := d.exists_tokens_cons
  have hstep : step ⟨levels, .firstItem⟩ t = step ⟨.array [] :: levels, .value⟩ t := by
    cases t <;> first | rfl | exact (hne rfl).elim
  rw [htokens, List.cons_append, run, run, hstep]

mutual
theorem run_tokens (levels : List Level) (rest : List Token) :
    (d : Document) → run ⟨levels, .value⟩ (d.tokens ++ rest) = run (deliver d levels) rest
  | .null => rfl
  | .boolean _ => rfl
  | .number _ => rfl
  | .text _ => rfl
  | .array [] => rfl
  | .array (d :: r) => by
    have hopen : step ⟨levels, .value⟩ .openArray = some ⟨levels, .firstItem⟩ := rfl
    rw [Document.tokens, List.cons_append, List.append_assoc, run_cons_of_step hopen,
      run_firstItem, run_tokens _ _ d]
    exact run_itemsTokens levels rest [d] r
  | .object [] => rfl
  | .object ((k, d) :: r) => by
    have hopen : step ⟨levels, .value⟩ .openObject = some ⟨levels, .firstKey⟩ := rfl
    have hkey : step ⟨levels, .firstKey⟩ (.text k) = some ⟨levels, .colon [] k⟩ := rfl
    have hcolon : step ⟨levels, .colon [] k⟩ .colon = some ⟨.object [] k :: levels, .value⟩ := rfl
    simp only [Document.tokens, List.cons_append, List.append_assoc]
    rw [run_cons_of_step hopen, run_cons_of_step hkey, run_cons_of_step hcolon, run_tokens _ _ d]
    exact run_membersTokens levels rest [(k, d)] r
theorem run_itemsTokens (levels : List Level) (rest : List Token) (read : List Document) :
    (r : List Document) → run ⟨levels, .afterItem read⟩ (Document.itemsTokens r ++ rest) =
      run (deliver (.array (read.reverse ++ r)) levels) rest
  | [] => by
    rw [List.append_nil]
    rfl
  | d :: r => by
    have hcomma : step ⟨levels, .afterItem read⟩ .comma = some ⟨.array read :: levels, .value⟩ :=
      rfl
    rw [Document.itemsTokens, List.cons_append, List.append_assoc, run_cons_of_step hcomma,
      run_tokens _ _ d]
    refine (run_itemsTokens levels rest (d :: read) r).trans ?_
    rw [List.reverse_cons, List.append_assoc, List.singleton_append]
theorem run_membersTokens (levels : List Level) (rest : List Token)
    (read : List (List Piece × Document)) :
    (r : List (List Piece × Document)) →
      run ⟨levels, .afterMember read⟩ (Document.membersTokens r ++ rest) =
        run (deliver (.object (read.reverse ++ r)) levels) rest
  | [] => by
    rw [List.append_nil]
    rfl
  | (k, d) :: r => by
    have hcomma : step ⟨levels, .afterMember read⟩ .comma = some ⟨levels, .key read⟩ := rfl
    have hkey : step ⟨levels, .key read⟩ (.text k) = some ⟨levels, .colon read k⟩ := rfl
    have hcolon : step ⟨levels, .colon read k⟩ .colon =
        some ⟨.object read k :: levels, .value⟩ := rfl
    simp only [Document.membersTokens, List.cons_append, List.append_assoc]
    rw [run_cons_of_step hcomma, run_cons_of_step hkey, run_cons_of_step hcolon, run_tokens _ _ d]
    refine (run_membersTokens levels rest ((k, d) :: read) r).trans ?_
    rw [List.reverse_cons, List.append_assoc, List.singleton_append]
end

theorem document?_tokens (d : Document) :
    (run ⟨[], .value⟩ d.tokens).bind document? = some d := by
  have h := run_tokens [] [] d
  rw [List.append_nil] at h
  rw [h]
  rfl

/-- The items read so far, newest first, each with the comma behind it. -/
def leadingItems : List Document → List Token
  | [] => []
  | d :: r => leadingItems r ++ (d.tokens ++ [.comma])

def leadingMembers : List (List Piece × Document) → List Token
  | [] => []
  | (k, d) :: r => leadingMembers r ++ .text k :: .colon :: (d.tokens ++ [.comma])

theorem array_tokens (items : List Document) (d : Document) (r : List Document) :
    (Document.array (items.reverse ++ d :: r)).tokens =
      .openArray :: (leadingItems items ++ (d.tokens ++ Document.itemsTokens r)) := by
  induction items generalizing d r with
  | nil => rfl
  | cons e items ih =>
    rw [List.reverse_cons, List.append_assoc, List.singleton_append, ih e (d :: r)]
    simp [leadingItems, Document.itemsTokens]

theorem object_tokens (members : List (List Piece × Document)) (k : List Piece) (d : Document)
    (r : List (List Piece × Document)) :
    (Document.object (members.reverse ++ (k, d) :: r)).tokens =
      .openObject :: (leadingMembers members ++
        .text k :: .colon :: (d.tokens ++ Document.membersTokens r)) := by
  induction members generalizing k d r with
  | nil => rfl
  | cons m members ih =>
    obtain ⟨l, e⟩ := m
    rw [List.reverse_cons, List.append_assoc, List.singleton_append, ih l e ((k, d) :: r)]
    simp [leadingMembers, Document.membersTokens]

def levelTokens : Level → List Token
  | .array items => .openArray :: leadingItems items
  | .object members key => .openObject :: (leadingMembers members ++ [.text key, .colon])

/-- What has been read of the open arrays and objects, innermost first. -/
def levelsTokens : List Level → List Token
  | [] => []
  | level :: levels => levelsTokens levels ++ levelTokens level

/-- What has been read inside the innermost level. -/
inductive Partial : Expect → List Token → Prop
  | value : Partial .value []
  | firstItem : Partial .firstItem [.openArray]
  | afterItem (items : List Document) (d : Document) :
    Partial (.afterItem (d :: items)) (.openArray :: (leadingItems items ++ d.tokens))
  | firstKey : Partial .firstKey [.openObject]
  | key (members : List (List Piece × Document)) :
    Partial (.key members) (.openObject :: leadingMembers members)
  | colon (members : List (List Piece × Document)) (k : List Piece) :
    Partial (.colon members k) (.openObject :: (leadingMembers members ++ [.text k]))
  | afterMember (members : List (List Piece × Document)) (k : List Piece) (d : Document) :
    Partial (.afterMember ((k, d) :: members))
      (.openObject :: (leadingMembers members ++ .text k :: .colon :: d.tokens))

/-- The tokens that lead to a state. -/
inductive Consumed : Build → List Token → Prop
  | inside (levels : List Level) {expect : Expect} {ts : List Token} (h : Partial expect ts) :
    Consumed ⟨levels, expect⟩ (levelsTokens levels ++ ts)
  | done (d : Document) : Consumed ⟨[], .nothing d⟩ d.tokens

theorem consumed_deliver (d : Document) (levels : List Level) :
    Consumed (deliver d levels) (levelsTokens levels ++ d.tokens) := by
  cases levels with
  | nil => exact .done d
  | cons level levels =>
    rw [levelsTokens, List.append_assoc]
    cases level with
    | array items => exact .inside levels (.afterItem items d)
    | object members key =>
      have h := Consumed.inside levels (.afterMember members key d)
      simpa [deliver, levelTokens] using h

theorem consumed_startValue {levels : List Level} {t : Token} {c : Build}
    (h : startValue levels t = some c) : Consumed c (levelsTokens levels ++ [t]) := by
  cases t with
  | openArray =>
    cases h
    exact .inside levels .firstItem
  | openObject =>
    cases h
    exact .inside levels .firstKey
  | null | boolean | number | text =>
    cases h
    exact consumed_deliver _ levels
  | _ => cases h

theorem consumed_step {b c : Build} {ts : List Token} {t : Token} (hb : Consumed b ts)
    (h : b.step t = some c) : Consumed c (ts ++ [t]) := by
  cases hb with
  | done d => cases h
  | inside levels hpart =>
    cases hpart with
    | value =>
      rw [List.append_nil]
      exact consumed_startValue h
    | firstItem =>
      -- Anything but the closing bracket is read as the first item.
      by_cases ht : t = .closeArray
      · subst ht
        cases h
        rw [List.append_assoc]
        exact consumed_deliver (.array []) levels
      · have hstart : startValue (.array [] :: levels) t = some c := by
          rw [← h]
          cases t <;> first | rfl | exact (ht rfl).elim
        exact consumed_startValue hstart
    | afterItem items d =>
      cases t with
      | comma =>
        cases h
        have h := Consumed.inside (.array (d :: items) :: levels) .value
        simpa [levelsTokens, levelTokens, leadingItems] using h
      | closeArray =>
        cases h
        have h := consumed_deliver (.array (items.reverse ++ [d])) levels
        rw [array_tokens] at h
        simpa [Document.itemsTokens] using h
      | _ => cases h
    | firstKey =>
      cases t with
      | closeObject =>
        cases h
        rw [List.append_assoc]
        exact consumed_deliver (.object []) levels
      | text k =>
        cases h
        rw [List.append_assoc]
        exact .inside levels (.colon [] k)
      | _ => cases h
    | key members =>
      cases t with
      | text k =>
        cases h
        rw [List.append_assoc]
        exact .inside levels (.colon members k)
      | _ => cases h
    | colon members k =>
      cases t with
      | colon =>
        cases h
        have h := Consumed.inside (.object members k :: levels) .value
        simpa [levelsTokens, levelTokens] using h
      | _ => cases h
    | afterMember members k d =>
      cases t with
      | comma =>
        cases h
        have h := Consumed.inside levels (.key ((k, d) :: members))
        simpa [leadingMembers] using h
      | closeObject =>
        cases h
        have h := consumed_deliver (.object (members.reverse ++ [(k, d)])) levels
        rw [object_tokens] at h
        simpa [Document.membersTokens] using h
      | _ => cases h

theorem consumed_run {b c : Build} {ts us : List Token} (hb : Consumed b ts)
    (h : run b us = some c) : Consumed c (ts ++ us) := by
  induction us generalizing b ts with
  | nil =>
    cases h
    rwa [List.append_nil]
  | cons t us ih =>
    rw [run] at h
    split at h
    · cases h
    · next c hstep =>
      have hrest := ih (consumed_step hb hstep) h
      rwa [List.append_assoc] at hrest

theorem eq_tokens_of_document? {ts : List Token} {d : Document}
    (h : (run ⟨[], .value⟩ ts).bind document? = some d) : ts = d.tokens := by
  obtain ⟨b, hrun, hd⟩ := Option.bind_eq_some_iff.1 h
  have hconsumed : Consumed b ts := consumed_run (.inside [] .value) hrun
  cases hconsumed with
  | inside levels hpart => cases hpart <;> cases hd
  | done =>
    cases hd
    rfl

end Build

def Token.isNumber : Token → Bool
  | .number _ => true
  | _ => false

/-- No number stands directly in front of another one. -/
def Separated (ts : List Token) : Prop :=
  ts.IsChain fun a b => a.isNumber = true → b.isNumber = false

/-- The tokens do not begin with a number. -/
def Unnumbered (ts : List Token) : Prop := ∀ t ∈ ts.head?, t.isNumber = false

theorem separated_cons {t : Token} {ts : List Token} :
    Separated (t :: ts) ↔ (t.isNumber = true → Unnumbered ts) ∧ Separated ts := by
  rw [Separated, List.isChain_cons]
  refine and_congr_left fun _ => ⟨fun h ht b hb => h b hb ht, fun h b hb ht => h ht b hb⟩

theorem Separated.cons {t : Token} {ts : List Token} (h : Separated ts)
    (ht : t.isNumber = false) : Separated (t :: ts) :=
  separated_cons.2 ⟨fun hnumber => Bool.noConfusion (ht.symm.trans hnumber), h⟩

theorem unnumbered_cons {t : Token} (ts : List Token) (ht : t.isNumber = false) :
    Unnumbered (t :: ts) := by
  rintro _ ⟨rfl⟩
  exact ht

theorem unnumbered_itemsTokens (r : List Document) (rest : List Token) :
    Unnumbered (Document.itemsTokens r ++ rest) := by
  cases r <;> exact unnumbered_cons _ rfl

theorem unnumbered_membersTokens (r : List (List Piece × Document)) (rest : List Token) :
    Unnumbered (Document.membersTokens r ++ rest) := by
  cases r <;> exact unnumbered_cons _ rfl

mutual
theorem separated_tokens {rest : List Token} (hu : Unnumbered rest) (hs : Separated rest) :
    (d : Document) → Separated (d.tokens ++ rest)
  | .null => hs.cons rfl
  | .boolean _ => hs.cons rfl
  | .number _ => separated_cons.2 ⟨fun _ => hu, hs⟩
  | .text _ => hs.cons rfl
  | .array [] => (hs.cons rfl).cons rfl
  | .array (d :: r) => by
    have hitems := separated_itemsTokens hs r
    have hfirst := separated_tokens (unnumbered_itemsTokens r rest) hitems d
    rw [← List.append_assoc] at hfirst
    exact hfirst.cons rfl
  | .object [] => (hs.cons rfl).cons rfl
  | .object ((k, d) :: r) => by
    have hmembers := separated_membersTokens hs r
    have hfirst := separated_tokens (unnumbered_membersTokens r rest) hmembers d
    rw [← List.append_assoc] at hfirst
    exact ((hfirst.cons rfl).cons rfl).cons rfl
theorem separated_itemsTokens {rest : List Token} (hs : Separated rest) :
    (r : List Document) → Separated (Document.itemsTokens r ++ rest)
  | [] => hs.cons rfl
  | d :: r => by
    have hitems := separated_itemsTokens hs r
    have hfirst := separated_tokens (unnumbered_itemsTokens r rest) hitems d
    rw [← List.append_assoc] at hfirst
    exact hfirst.cons rfl
theorem separated_membersTokens {rest : List Token} (hs : Separated rest) :
    (r : List (List Piece × Document)) → Separated (Document.membersTokens r ++ rest)
  | [] => hs.cons rfl
  | (k, d) :: r => by
    have hmembers := separated_membersTokens hs r
    have hfirst := separated_tokens (unnumbered_membersTokens r rest) hmembers d
    rw [← List.append_assoc] at hfirst
    exact ((hfirst.cons rfl).cons rfl).cons rfl
end

theorem Document.separated (d : Document) : Separated d.tokens := by
  have hnil : Separated [] := .nil
  have hend : Unnumbered [] := by
    intro t ht
    cases ht
  have h := separated_tokens hend hnil d
  rwa [List.append_nil] at h

end OpsConsole.Json
