/-!
# Fields and digits

A text is split at each separator into fields, and cut at the first one into what stands before it
and, if there is a separator, what stands after it. Hexadecimal digits of either case are read as
the number that they stand for.
-/

namespace OpsConsole.Text

variable {α : Type}

/-- The fields between separators; there is always one. -/
def fields (p : α → Bool) : List α → List (List α)
  | [] => [[]]
  | c :: r =>
    if p c then [] :: fields p r
    else
      match fields p r with
      | [] => [[c]]
      | f :: fs => (c :: f) :: fs

def cut (p : α → Bool) : List α → List α × Option (List α)
  | [] => ([], none)
  | c :: r =>
    if p c then ([], some r)
    else
      let (before, after) := cut p r
      (c :: before, after)

def cutLast? (p : α → Bool) : List α → Option (List α × List α)
  | [] => none
  | c :: r =>
    match cutLast? p r with
    | some (before, after) => some (c :: before, after)
    | none => if p c then some ([], r) else none

theorem not_mem_of_mem_fields {p : α → Bool} {cs f : List α} (h : f ∈ fields p cs) :
    ∀ c ∈ f, p c = false := by
  induction cs generalizing f with
  | nil => simp_all [fields]
  | cons a r ih =>
    simp only [fields] at h
    split at h
    · rcases List.mem_cons.1 h with rfl | h
      · simp
      · exact ih h
    · next ha =>
      split at h
      · simp_all
      · next g gs e =>
        rcases List.mem_cons.1 h with rfl | h
        · intro c hc
          rcases List.mem_cons.1 hc with rfl | hc
          · simpa using ha
          · exact ih (by rw [e]; simp) c hc
        · exact ih (by rw [e]; simp [h])

theorem fields_of_none {p : α → Bool} {cs : List α} (h : ∀ c ∈ cs, p c = false) :
    fields p cs = [cs] := by
  induction cs with
  | nil => rfl
  | cons c cs ih =>
    have hc : p c = false := h c List.mem_cons_self
    have hcs : fields p cs = [cs] := ih fun d hd => h d (List.mem_cons_of_mem c hd)
    simp only [fields, hc, hcs, Bool.false_eq_true, ↓reduceIte]

theorem fields_append_cons {p : α → Bool} {cs r : List α} {c : α}
    (h : ∀ d ∈ cs, p d = false) (hc : p c = true) :
    fields p (cs ++ c :: r) = cs :: fields p r := by
  induction cs with
  | nil => simp only [List.nil_append, fields, hc, ↓reduceIte]
  | cons d cs ih =>
    have hd : p d = false := h d List.mem_cons_self
    have hcs : fields p (cs ++ c :: r) = cs :: fields p r :=
      ih fun e he => h e (List.mem_cons_of_mem d he)
    simp only [List.cons_append, fields, hd, hcs, Bool.false_eq_true, ↓reduceIte]

def hexValue? (c : Char) : Option Nat :=
  if c.isDigit then some (c.toNat - '0'.toNat)
  else if 'a' ≤ c ∧ c ≤ 'f' then some (c.toNat - 'a'.toNat + 10)
  else if 'A' ≤ c ∧ c ≤ 'F' then some (c.toNat - 'A'.toNat + 10)
  else none

/-- The number that digits stand for; what is no digit counts as zero. -/
def hexNumber (cs : List Char) : Nat :=
  cs.foldl (fun n c => 16 * n + (hexValue? c).getD 0) 0

end OpsConsole.Text
