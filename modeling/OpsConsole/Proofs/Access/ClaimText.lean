import OpsConsole.Proofs.Access.Matching

/-!
# Claims and their texts

A text is cut at its first two colons, and white space is taken off its ends before that but nowhere
else. `Written` says which texts are read as which claim: the resource and the action are names, and
a scope that is missing or empty is the wildcard. A claim is read back from its own text exactly
when it has names and a scope and the text has no white space at its ends, which holds for every
claim that was read.
-/

namespace OpsConsole.Claim

variable {line : String} {c : Claim} {cs before : List Char}

/-- What a resource and an action are called. -/
structure IsName (s : String) : Prop where
  ne_empty : s ≠ ""
  noColon : ':' ∉ s.toList

/-- The claims that can be read. -/
structure Legible (c : Claim) : Prop where
  resource : IsName c.resource
  action : IsName c.action
  scope : c.scope ≠ ""

/-- The texts that a claim is read from. Only a scope may hold further colons. -/
inductive Written : String → Claim → Prop
  | unscoped {resource action : String} (hresource : IsName resource) (haction : IsName action) :
    Written (resource ++ ":" ++ action) (plain resource action)
  | emptyScope {resource action : String} (hresource : IsName resource) (haction : IsName action) :
    Written (resource ++ ":" ++ action ++ ":") (plain resource action)
  | full {resource action scope : String} (hresource : IsName resource)
      (haction : IsName action) (hscope : scope ≠ "") :
    Written (resource ++ ":" ++ action ++ ":" ++ scope) ⟨resource, action, scope⟩

theorem Written.legible (h : Written line c) : c.Legible := by
  have hwildcard : wildcard ≠ "" := by decide
  cases h with
  | unscoped hresource haction => exact ⟨hresource, haction, hwildcard⟩
  | emptyScope hresource haction => exact ⟨hresource, haction, hwildcard⟩
  | full hresource haction hscope => exact ⟨hresource, haction, hscope⟩

theorem Legible.written (h : c.Legible) : Written c.text c :=
  .full h.resource h.action h.scope

theorem isName_ofList (hne : cs ≠ []) (h : ':' ∉ cs) : IsName (String.ofList cs) :=
  ⟨mt String.ofList_eq_empty_iff.1 hne, by rwa [String.toList_ofList]⟩

/-! ### Reading -/

theorem cut_of_not_mem (h : ':' ∉ cs) : cut cs = (cs, none) := by
  induction cs with
  | nil => rfl
  | cons c cs ih =>
    obtain ⟨hc, hcs⟩ := not_or.1 (mt List.mem_cons.2 h)
    rw [cut, if_neg (Ne.symm hc), ih hcs]

theorem eq_of_cut_none (h : cut cs = (before, none)) : before = cs ∧ ':' ∉ cs := by
  by_cases hcs : ':' ∈ cs
  · obtain ⟨first, rest, rfl, hfirst⟩ := List.eq_append_cons_of_mem hcs
    rw [cut_append_colon hfirst] at h
    cases h
  · rw [cut_of_not_mem hcs] at h
    cases h
    exact ⟨rfl, hcs⟩

def scopeOf : Option (List Char) → String
  | none | some [] => wildcard
  | some scope => String.ofList scope

theorem scopeOf_toList {scope : String} (h : scope ≠ "") : scopeOf (some scope.toList) = scope := by
  obtain ⟨d, rest, hrest⟩ := List.exists_cons_of_ne_nil (mt String.toList_eq_nil_iff.1 h)
  rw [hrest, scopeOf, ← hrest, String.ofList_toList]
  exact List.cons_ne_nil d rest

theorem parse?_of_no_colon (h : ':' ∉ (Text.trim line).toList) : parse? line = none := by
  rw [parse?, ← Text.toList_trim, cut_of_not_mem h]

theorem parse?_of_colon {resource action rest : List Char} {scope : Option (List Char)}
    (hline : (Text.trim line).toList = resource ++ ':' :: rest) (hresource : ':' ∉ resource)
    (hrest : cut rest = (action, scope)) :
    parse? line =
      if resource = [] ∨ action = [] then none
      else some ⟨String.ofList resource, String.ofList action, scopeOf scope⟩ := by
  rw [parse?, ← Text.toList_trim, hline, cut_append_colon hresource]
  dsimp only
  rw [hrest]
  rcases scope with _ | _ | ⟨c, scope⟩ <;> rfl

theorem written_of_parse? (h : parse? line = some c) : Written (Text.trim line) c := by
  cases hfirst : cut (Text.trim line).toList with
  | mk resource rest =>
    cases rest with
    | none =>
      rw [parse?_of_no_colon (eq_of_cut_none hfirst).2] at h
      cases h
    | some rest =>
      obtain ⟨hline, hresource⟩ := eq_append_colon_of_cut hfirst
      cases hsecond : cut rest with
      | mk action scope =>
        rw [parse?_of_colon hline hresource hsecond] at h
        split at h
        · cases h
        next hnames =>
        cases h
        obtain ⟨hr, ha⟩ := not_or.1 hnames
        have hname := isName_ofList hr hresource
        rcases scope with _ | scope
        · obtain ⟨rfl, haction⟩ := eq_of_cut_none hsecond
          have heq : Text.trim line = String.ofList resource ++ ":" ++ String.ofList action :=
            String.toList_inj.1 (by simp [hline])
          exact heq ▸ .unscoped hname (isName_ofList ha haction)
        · obtain ⟨rfl, haction⟩ := eq_append_colon_of_cut hsecond
          rcases scope with _ | ⟨d, scope⟩
          · have heq : Text.trim line =
                String.ofList resource ++ ":" ++ String.ofList action ++ ":" :=
              String.toList_inj.1 (by simp [hline])
            exact heq ▸ .emptyScope hname (isName_ofList ha haction)
          · have heq : Text.trim line = String.ofList resource ++ ":" ++ String.ofList action ++
                ":" ++ String.ofList (d :: scope) := String.toList_inj.1 (by simp [hline])
            exact heq ▸ .full hname (isName_ofList ha haction)
              (mt String.ofList_eq_empty_iff.1 (List.cons_ne_nil d scope))

theorem parse?_of_written (h : Written (Text.trim line) c) : parse? line = some c := by
  generalize hline : Text.trim line = trimmed at h
  cases h with
  | @unscoped resource action hresource haction =>
    have hchars : (Text.trim line).toList = resource.toList ++ ':' :: action.toList := by
      simp [hline]
    rw [parse?_of_colon hchars hresource.noColon (cut_of_not_mem haction.noColon)]
    simp [hresource.ne_empty, haction.ne_empty, scopeOf, plain]
  | @emptyScope resource action hresource haction =>
    have hchars : (Text.trim line).toList =
        resource.toList ++ ':' :: (action.toList ++ [':']) := by
      simp [hline]
    rw [parse?_of_colon hchars hresource.noColon (cut_append_colon haction.noColon [])]
    simp [hresource.ne_empty, haction.ne_empty, scopeOf, plain]
  | @full resource action scope hresource haction hscope =>
    have hchars : (Text.trim line).toList =
        resource.toList ++ ':' :: (action.toList ++ ':' :: scope.toList) := by
      simp [hline]
    rw [parse?_of_colon hchars hresource.noColon (cut_append_colon haction.noColon _),
      scopeOf_toList hscope]
    simp [hresource.ne_empty, haction.ne_empty]

/-- The texts that are read as a claim are, but for white space at their ends, its own and, if its
scope is the wildcard, those without a scope. -/
theorem parse?_eq_some_iff : parse? line = some c ↔ Written (Text.trim line) c :=
  ⟨written_of_parse?, parse?_of_written⟩

theorem splitOn_of_cut {after : Option (List Char)} (h : cut cs = (before, after)) :
    cs.splitOn ':' = before :: (after.map (List.splitOn ':')).getD [] := by
  cases after with
  | none =>
    obtain ⟨rfl, hcs⟩ := eq_of_cut_none h
    exact List.splitOn_eq_singleton hcs
  | some rest =>
    obtain ⟨rfl, hbefore⟩ := eq_append_colon_of_cut h
    exact List.splitOn_append_cons_self_of_not_mem hbefore rest

/-- No claim is read from a text without a colon, or of which the first or the second part between
the colons is empty. -/
theorem parse?_eq_none_iff :
    parse? line = none ↔
      ':' ∉ (Text.trim line).toList ∨ ((Text.trim line).toList.splitOn ':')[0]? = some [] ∨
        ((Text.trim line).toList.splitOn ':')[1]? = some [] := by
  cases hfirst : cut (Text.trim line).toList with
  | mk resource rest =>
    cases rest with
    | none =>
      obtain ⟨-, hcolon⟩ := eq_of_cut_none hfirst
      simp [parse?_of_no_colon hcolon, hcolon]
    | some rest =>
      obtain ⟨hline, hresource⟩ := eq_append_colon_of_cut hfirst
      cases hsecond : cut rest with
      | mk action scope =>
        have hcolon : ':' ∈ (Text.trim line).toList := by simp [hline]
        rw [parse?_of_colon hline hresource hsecond, splitOn_of_cut hfirst, Option.map_some,
          Option.getD_some, splitOn_of_cut hsecond]
        simp [hcolon, Decidable.or_iff_not_imp_left]

/-! ### Reading again -/

theorem head?_append {name : String} (h : IsName name) (rest : String) :
    (name ++ rest).toList.head? = name.toList.head? := by
  rw [String.toList_append, List.head?_append, Option.or_of_isSome]
  simpa using h.ne_empty

theorem head?_of_written (h : Written line c) :
    line.toList.head? = c.resource.toList.head? := by
  cases h with
  | unscoped hresource => rw [String.append_assoc, head?_append hresource, plain]
  | emptyScope hresource =>
    rw [String.append_assoc, String.append_assoc, head?_append hresource, plain]
  | full hresource =>
    rw [String.append_assoc, String.append_assoc, String.append_assoc, head?_append hresource]

theorem getLast?_text_plain (resource action : String) :
    (plain resource action).text.toList.getLast? = some '*' := by
  have htext : (plain resource action).text.toList = (resource ++ ":" ++ action ++ ":").toList ++
      ['*'] := by
    simp [text, plain, wildcard]
  rw [htext, List.getLast?_concat]

/-- If a claim is read from another text than its own, then the wildcard ends its own. -/
theorem text_eq_or_of_written (h : Written line c) :
    c.text = line ∨ c.text.toList.getLast? = some '*' := by
  cases h with
  | unscoped => exact Or.inr (getLast?_text_plain _ _)
  | emptyScope => exact Or.inr (getLast?_text_plain _ _)
  | full => exact Or.inl rfl

theorem trim_text_of_written (h : Written (Text.trim line) c) : Text.trim c.text = c.text := by
  have hends := Text.trim_eq_self_iff.1 (Text.trim_trim line)
  rw [Text.trim_eq_self_iff, head?_of_written h.legible.written, ← head?_of_written h]
  refine ⟨hends.1, ?_⟩
  rcases text_eq_or_of_written h with heq | hwildcard
  · rw [heq]
    exact hends.2
  · rw [hwildcard]
    rintro _ ⟨rfl⟩
    decide

theorem parse?_text_iff : parse? c.text = some c ↔ c.Legible ∧ Text.trim c.text = c.text := by
  rw [parse?_eq_some_iff]
  constructor
  · exact fun h => ⟨h.legible, trim_text_of_written h⟩
  · rintro ⟨hlegible, htrim⟩
    rw [htrim]
    exact hlegible.written

theorem parse?_text_of_parse? (h : parse? line = some c) : parse? c.text = some c := by
  have hwritten := written_of_parse? h
  exact parse?_text_iff.2 ⟨hwritten.legible, trim_text_of_written hwritten⟩

/-- Reading claims and writing them are inverse. What is read has names for a resource and an action
and has a scope, the wildcard if the text has none, and it is read again from its own text. Any
claim is read from its own text exactly when it is of this form and white space is at neither end of
the text. Nothing is read exactly when the trimmed text has no colon or its first or second part is
empty. -/
theorem parse?_inverse_text :
    (∀ (line : String) (c : Claim),
      (parse? line = some c ↔ Written (Text.trim line) c) ∧
        (parse? line = some c → c.Legible ∧ parse? c.text = some c)) ∧
    (∀ c : Claim, parse? c.text = some c ↔ c.Legible ∧
      (∀ d ∈ c.text.toList.head?, Text.isBlank d = false) ∧
        ∀ d ∈ c.text.toList.getLast?, Text.isBlank d = false) ∧
    ∀ line : String, parse? line = none ↔
      ':' ∉ (Text.trim line).toList ∨ ((Text.trim line).toList.splitOn ':')[0]? = some [] ∨
        ((Text.trim line).toList.splitOn ':')[1]? = some [] := by
  refine ⟨fun line c => ⟨parse?_eq_some_iff, fun h => ?_⟩, fun c => ?_, fun line =>
    parse?_eq_none_iff⟩
  · exact ⟨(written_of_parse? h).legible, parse?_text_of_parse? h⟩
  · rw [← Text.trim_eq_self_iff]
    exact parse?_text_iff

/-- White space next to a colon belongs to a part, a scope keeps its colon, and a third part that is
empty is no scope. -/
theorem spaced_claim_read_back :
    let c : Claim := ⟨"process", " stop ", "prod:eu"⟩
    parse? "\u2003process: stop :prod:eu\n" = some c ∧ c.Legible ∧
      parse? "process: stop :prod:eu" = some c ∧
      parse? " process:stop:" = some (plain "process" "stop") ∧ parse? "process::eu" = none := by
  intro c
  obtain ⟨hread, -, hnone⟩ := parse?_inverse_text
  have hline : parse? "\u2003process: stop :prod:eu\n" = some c := by decide +kernel
  obtain ⟨hlegible, hback⟩ := (hread _ c).2 hline
  have htrim : Text.trim " process:stop:" = "process" ++ ":" ++ "stop" ++ ":" := by decide +kernel
  have hempty : Written (Text.trim " process:stop:") (plain "process" "stop") :=
    htrim ▸ .emptyScope ⟨by decide, by decide⟩ ⟨by decide, by decide⟩
  exact ⟨hline, hlegible, hback, (hread _ _).1.2 hempty, (hnone _).2 (by decide +kernel)⟩

end OpsConsole.Claim
