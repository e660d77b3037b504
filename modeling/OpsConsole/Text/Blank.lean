/-!
# White space

A character is blank when Unicode gives it the White_Space property. `trim` takes the blank
characters off both ends of a text. The main facts: trimming leaves exactly the texts that neither
start nor end with a blank character, so trimming again changes nothing, and a text trims to nothing
exactly when all of its characters are blank.
-/

namespace OpsConsole.Text

def isBlank (c : Char) : Bool :=
  let n := c.toNat
  (9 ≤ n && n ≤ 13) || n == 0x20 || n == 0x85 || n == 0xA0 || n == 0x1680 ||
    (0x2000 ≤ n && n ≤ 0x200A) || n == 0x2028 || n == 0x2029 || n == 0x202F || n == 0x205F ||
    n == 0x3000

/-- Takes the characters of a class off the end. -/
def dropTail (p : Char → Bool) (cs : List Char) : List Char :=
  (cs.reverse.dropWhile p).reverse

def trimChars (cs : List Char) : List Char :=
  dropTail isBlank (cs.dropWhile isBlank)

def trim (s : String) : String :=
  String.ofList (trimChars s.toList)

def allBlank (s : String) : Bool :=
  s.toList.all isBlank

theorem dropWhile_eq_nil_iff_all {p : Char → Bool} {cs : List Char} :
    cs.dropWhile p = [] ↔ cs.all p = true := by
  induction cs with
  | nil => simp
  | cons c r ih => by_cases h : p c <;> simp [h, ih]

theorem dropTail_cons_of_not {p : Char → Bool} {c : Char} (h : p c = false) (cs : List Char) :
    dropTail p (c :: cs) = c :: dropTail p cs := by
  simp only [dropTail, List.reverse_cons, List.dropWhile_append]
  cases e : cs.reverse.dropWhile p with
  | nil => simp [h]
  | cons d r => simp

theorem dropWhile_eq_self_of_head {p : Char → Bool} {cs : List Char}
    (h : ∀ c ∈ cs.head?, p c = false) : cs.dropWhile p = cs := by
  cases cs with
  | nil => rfl
  | cons c r => simp [h c (by simp)]

theorem head?_dropWhile_not (p : Char → Bool) (cs : List Char) :
    ∀ c ∈ (cs.dropWhile p).head?, p c = false := by
  induction cs with
  | nil => simp
  | cons c r ih => by_cases h : p c <;> simp_all

theorem head?_dropTail_not {p : Char → Bool} {cs : List Char}
    (h : ∀ c ∈ cs.head?, p c = false) : ∀ c ∈ (dropTail p cs).head?, p c = false := by
  cases cs with
  | nil => simp [dropTail]
  | cons c r =>
    have hc : p c = false := h c (by simp)
    rw [dropTail_cons_of_not hc]
    simpa using hc

theorem dropTail_eq_self_of_last {p : Char → Bool} {cs : List Char}
    (h : ∀ c ∈ cs.getLast?, p c = false) : dropTail p cs = cs := by
  rw [dropTail, dropWhile_eq_self_of_head (by rwa [List.head?_reverse]), List.reverse_reverse]

theorem getLast?_dropTail_not (p : Char → Bool) (cs : List Char) :
    ∀ c ∈ (dropTail p cs).getLast?, p c = false := by
  rw [dropTail, List.getLast?_reverse]
  exact head?_dropWhile_not p cs.reverse

theorem head?_trimChars_not (cs : List Char) : ∀ c ∈ (trimChars cs).head?, isBlank c = false :=
  head?_dropTail_not (head?_dropWhile_not isBlank cs)

/-- Trimming leaves the texts that neither start nor end with a blank character. -/
theorem trimChars_eq_self_iff {cs : List Char} :
    trimChars cs = cs ↔
      (∀ c ∈ cs.head?, isBlank c = false) ∧ ∀ c ∈ cs.getLast?, isBlank c = false := by
  constructor
  · intro h
    rw [← h]
    exact ⟨head?_trimChars_not cs, getLast?_dropTail_not _ _⟩
  · rintro ⟨hfirst, hlast⟩
    rw [trimChars, dropWhile_eq_self_of_head hfirst, dropTail_eq_self_of_last hlast]

theorem trimChars_trimChars (cs : List Char) : trimChars (trimChars cs) = trimChars cs :=
  trimChars_eq_self_iff.2 ⟨head?_trimChars_not cs, getLast?_dropTail_not _ _⟩

theorem toList_trim (s : String) : (trim s).toList = trimChars s.toList := String.toList_ofList

theorem trim_eq_self_iff {s : String} :
    trim s = s ↔
      (∀ c ∈ s.toList.head?, isBlank c = false) ∧ ∀ c ∈ s.toList.getLast?, isBlank c = false := by
  rw [← trimChars_eq_self_iff, ← toList_trim, String.toList_inj]

@[simp] theorem trim_trim (s : String) : trim (trim s) = trim s := by
  simp [trim, trimChars_trimChars]

theorem trimChars_eq_nil_iff {cs : List Char} : trimChars cs = [] ↔ cs.all isBlank = true := by
  rw [← dropWhile_eq_nil_iff_all]
  constructor
  · intro h
    cases e : cs.dropWhile isBlank with
    | nil => rfl
    | cons c r =>
      have hc : isBlank c = false := head?_dropWhile_not isBlank cs c (by simp [e])
      rw [trimChars, e, dropTail_cons_of_not hc] at h
      simp at h
  · intro h
    simp [trimChars, h, dropTail]

theorem trim_eq_empty_iff {s : String} : trim s = "" ↔ allBlank s = true := by
  rw [allBlank, ← trimChars_eq_nil_iff, trim, ← String.toList_inj]
  simp

end OpsConsole.Text
