import OpsConsole.Json.Document

/-!
# Written numbers

A numeral is written with its sign, the digits before the point, a point and the digits after it
if there are any, and an exponent if there is one. The exponent may be spelled with either mark,
and its sign may be left out when it is positive. The scanner reads a well-formed numeral in any of
its spellings, if it is followed by nothing that would continue it, as that numeral.
-/

namespace OpsConsole.Json

/-- The digits before the point, of which the first is not zero unless it is the only one. -/
structure IsWhole (ds : List Char) : Prop where
  ne_nil : ds ≠ []
  digits : ∀ c ∈ ds, c.isDigit = true
  lead : ds.head? = some '0' → ds = ['0']

theorem head?_toDigits_ne {n : Nat} (h : 0 < n) : (Nat.toDigits 10 n).head? ≠ some '0' := by
  induction n using Nat.base_induction 10 (by decide) with
  | single m hm =>
    simp [Nat.toDigits_of_lt_base hm]
    omega
  | digit m k hk hm ih =>
    have hfirst := ih hm
    rw [← Nat.toDigits_append_toDigits (by decide) hm hk]
    cases hds : Nat.toDigits 10 m with
    | nil => exact (Nat.toDigits_ne_nil hds).elim
    | cons d ds => simpa [hds] using hfirst

theorem isDigit_of_mem_toDigits {n : Nat} {c : Char} (h : c ∈ Nat.toDigits 10 n) :
    c.isDigit = true :=
  Nat.isDigit_of_mem_toDigits (by decide) (by decide) h

theorem isWhole_toDigits (n : Nat) : IsWhole (Nat.toDigits 10 n) := by
  refine ⟨Nat.toDigits_ne_nil, fun c => isDigit_of_mem_toDigits, ?_⟩
  intro hlead
  rcases Nat.eq_zero_or_pos n with rfl | hpos
  · rfl
  · exact (head?_toDigits_ne hpos hlead).elim

namespace Numeral

structure WellFormed (n : Numeral) : Prop where
  whole : IsWhole n.whole
  fraction : ∀ c ∈ n.fraction, c.isDigit = true
  exponent : ∀ e, n.exponent = some e → e.2 ≠ [] ∧ ∀ c ∈ e.2, c.isDigit = true

def fractionChars : List Char → List Char
  | [] => []
  | ds => '.' :: ds

def exponentChars : Option (Bool × List Char) → List Char
  | none => []
  | some (minus, ds) => 'e' :: (if minus then '-' else '+') :: ds

def chars (n : Numeral) : List Char :=
  (if n.negative then ['-'] else []) ++
    (n.whole ++ (fractionChars n.fraction ++ exponentChars n.exponent))

inductive ExponentSpelled : Option (Bool × List Char) → List Char → Prop
  | none : ExponentSpelled none []
  | unsigned {mark : Char} (hm : Scan.isMark mark = true) (ds : List Char) :
    ExponentSpelled (some (false, ds)) (mark :: ds)
  | signed {mark : Char} (hm : Scan.isMark mark = true) (minus : Bool) (ds : List Char) :
    ExponentSpelled (some (minus, ds)) (mark :: (if minus then '-' else '+') :: ds)

/-- The spellings of a numeral. -/
def Spelled (n : Numeral) (cs : List Char) : Prop :=
  ∃ exponent, ExponentSpelled n.exponent exponent ∧
    cs = (if n.negative then ['-'] else []) ++ (n.whole ++ (fractionChars n.fraction ++ exponent))

theorem spelled_chars (n : Numeral) : n.Spelled n.chars := by
  refine ⟨exponentChars n.exponent, ?_, rfl⟩
  cases n.exponent with
  | none => exact .none
  | some e => exact .signed rfl e.1 e.2

end Numeral

/-- What may stand after a numeral without continuing it. -/
def Delimited (rest : List Char) : Prop :=
  ∀ c ∈ rest.head?, c.isDigit = false ∧ c ≠ '.' ∧ Scan.isMark c = false

theorem delimited_nil : Delimited [] := by
  intro c h
  cases h

namespace Scan

theorem run_cons_of_step {s t : Scan} {c : Char} {ts : List Token} (h : s.step c = some (t, ts))
    (out : List Token) (rest : List Char) :
    run out s (c :: rest) = run (ts.reverseAux out) t rest := by
  rw [run_cons, h]

/-- The parts that can end a numeral. -/
def canEnd : NumeralPart → Bool
  | .zero | .whole | .fraction | .exponent => true
  | _ => false

theorem numeralStep_of_delimiter {part : NumeralPart} (hp : canEnd part = true) (n : Numeral)
    {c : Char} (hd : c.isDigit = false) (hpoint : c ≠ '.') (hm : isMark c = false) :
    numeralStep part n c = endNumeral n c := by
  cases part <;> simp_all [canEnd, numeralStep]

theorem run_ended {part : NumeralPart} (hp : canEnd part = true) (n : Numeral) (out : List Token)
    {rest : List Char} (hr : Delimited rest) :
    run out (.numeral part n) rest = run (.number (finish n) :: out) .between rest := by
  cases rest with
  | nil => cases part <;> first | rfl | cases hp
  | cons c rest =>
    obtain ⟨hd, hpoint, hm⟩ := hr c rfl
    simp only [run_cons, step, numeralStep_of_delimiter hp n hd hpoint hm, endNumeral]
    cases start c with
    | none => rfl
    | some next => rfl

theorem run_digits {part : NumeralPart} {add : Numeral → Char → Numeral}
    (hstep : ∀ n c, c.isDigit = true →
      step (.numeral part n) c = some (.numeral part (add n c), []))
    (n : Numeral) (out : List Token) (ds rest : List Char) (hds : ∀ c ∈ ds, c.isDigit = true) :
    run out (.numeral part n) (ds ++ rest) = run out (.numeral part (ds.foldl add n)) rest := by
  induction ds generalizing n with
  | nil => rfl
  | cons c ds ih =>
    rw [List.cons_append, run_cons_of_step (hstep n c (hds c List.mem_cons_self))]
    exact ih (add n c) fun d hd => hds d (List.mem_cons_of_mem _ hd)

def addWhole (n : Numeral) (c : Char) : Numeral := { n with whole := c :: n.whole }

def addFraction (n : Numeral) (c : Char) : Numeral := { n with fraction := c :: n.fraction }

theorem foldl_addWhole (negative : Bool) (ws ds : List Char) :
    ds.foldl addWhole ⟨negative, ws, [], none⟩ = ⟨negative, ds.reverse ++ ws, [], none⟩ := by
  induction ds generalizing ws with
  | nil => rfl
  | cons c ds ih => simpa [addWhole] using ih (c :: ws)

theorem foldl_addFraction (negative : Bool) (ws fs ds : List Char) :
    ds.foldl addFraction ⟨negative, ws, fs, none⟩ =
      ⟨negative, ws, ds.reverse ++ fs, none⟩ := by
  induction ds generalizing fs with
  | nil => rfl
  | cons c ds ih => simpa [addFraction] using ih (c :: fs)

theorem foldl_addExponent (negative minus : Bool) (ws fs es ds : List Char) :
    ds.foldl addExponent ⟨negative, ws, fs, some (minus, es)⟩ =
      ⟨negative, ws, fs, some (minus, ds.reverse ++ es)⟩ := by
  induction ds generalizing es with
  | nil => rfl
  | cons c ds ih => simpa [addExponent] using ih (c :: es)

theorem run_firstDigit (negative : Bool) (c : Char) (hc : c.isDigit = true) (out : List Token)
    (rest : List Char) :
    run out .between ((if negative then ['-'] else []) ++ c :: rest) =
      run out (.numeral (if c = '0' then .zero else .whole) ⟨negative, [c], [], none⟩) rest := by
  have hspace : isSpace c = false := by
    rw [Bool.eq_false_iff]
    intro h
    simp only [isSpace, Bool.or_eq_true, beq_iff_eq] at h
    rcases h with ((rfl | rfl) | rfl) | rfl <;> cases hc
  cases negative with
  | false =>
    by_cases h0 : c = '0'
    · subst h0
      rfl
    · have hfirst : step .between c = some (.numeral .whole ⟨false, [c], [], none⟩, []) := by
        simp [step, start, hspace, h0, hc]
      rw [if_neg h0]
      exact run_cons_of_step hfirst out rest
  | true =>
    have hsign : step .between '-' = some (.numeral .sign ⟨true, [], [], none⟩, []) := rfl
    rw [if_pos rfl, List.singleton_append, run_cons_of_step hsign]
    by_cases h0 : c = '0'
    · subst h0
      rfl
    · have hfirst : step (.numeral .sign ⟨true, [], [], none⟩) c =
          some (.numeral .whole ⟨true, [c], [], none⟩, []) := by
        simp [step, numeralStep, h0, hc]
      rw [if_neg h0]
      exact run_cons_of_step hfirst out rest

theorem run_whole (negative : Bool) {ws : List Char} (hw : IsWhole ws) (out : List Token)
    (rest : List Char) :
    run out .between ((if negative then ['-'] else []) ++ (ws ++ rest)) =
      run out (.numeral (if ws = ['0'] then .zero else .whole) ⟨negative, ws.reverse, [], none⟩)
        rest := by
  cases ws with
  | nil => exact (hw.ne_nil rfl).elim
  | cons c ds =>
    have hc : c.isDigit = true := hw.digits c List.mem_cons_self
    have hds : ∀ d ∈ ds, d.isDigit = true := fun d hd => hw.digits d (List.mem_cons_of_mem _ hd)
    rw [List.cons_append, run_firstDigit negative c hc]
    by_cases h0 : c = '0'
    · obtain ⟨_, rfl⟩ := List.cons.inj (hw.lead (by rw [h0]; rfl))
      simp [h0]
    · have hstep : ∀ n d, d.isDigit = true →
          step (.numeral .whole n) d = some (.numeral .whole (addWhole n d), []) := by
        intro n d hd
        simp [step, numeralStep, hd, addWhole]
      rw [if_neg h0, run_digits hstep _ _ _ _ hds, foldl_addWhole]
      simp [h0]

/-- The parts in which a point or an exponent may follow. -/
def beforeExponent : NumeralPart → Bool
  | .zero | .whole | .fraction => true
  | _ => false

theorem run_fraction (negative : Bool) (ws : List Char) {part : NumeralPart}
    (hp : part = .zero ∨ part = .whole) {fs : List Char} (hf : ∀ c ∈ fs, c.isDigit = true) :
    ∃ next, beforeExponent next = true ∧ ∀ out rest,
      run out (.numeral part ⟨negative, ws, [], none⟩) (Numeral.fractionChars fs ++ rest) =
        run out (.numeral next ⟨negative, ws, fs.reverse, none⟩) rest := by
  cases fs with
  | nil =>
    refine ⟨part, ?_, fun _ _ => rfl⟩
    rcases hp with rfl | rfl <;> rfl
  | cons c ds =>
    have hc : c.isDigit = true := hf c List.mem_cons_self
    have hds : ∀ d ∈ ds, d.isDigit = true := fun d hd => hf d (List.mem_cons_of_mem _ hd)
    have hpoint : step (.numeral part ⟨negative, ws, [], none⟩) '.' =
        some (.numeral .point ⟨negative, ws, [], none⟩, []) := by
      rcases hp with rfl | rfl <;> rfl
    have hfirst : step (.numeral .point ⟨negative, ws, [], none⟩) c =
        some (.numeral .fraction ⟨negative, ws, [c], none⟩, []) := by
      simp [step, numeralStep, hc]
    have hstep : ∀ n d, d.isDigit = true →
        step (.numeral .fraction n) d = some (.numeral .fraction (addFraction n d), []) := by
      intro n d hd
      simp [step, numeralStep, hd, addFraction]
    refine ⟨.fraction, rfl, fun out rest => ?_⟩
    rw [Numeral.fractionChars, List.cons_append, List.cons_append, run_cons_of_step hpoint,
      run_cons_of_step hfirst, run_digits hstep _ _ _ _ hds, foldl_addFraction]
    · simp
    · simp

/-- The digits of an exponent, from a part in which the first of them may stand. -/
theorem run_exponentDigits (negative minus : Bool) (ws fs : List Char) {part : NumeralPart}
    (hp : part = .mark ∨ part = .markSign) {ds : List Char} (hne : ds ≠ [])
    (hds : ∀ c ∈ ds, c.isDigit = true) (out : List Token) (rest : List Char) :
    run out (.numeral part ⟨negative, ws, fs, some (minus, [])⟩) (ds ++ rest) =
      run out (.numeral .exponent ⟨negative, ws, fs, some (minus, ds.reverse)⟩) rest := by
  obtain ⟨c, ds, rfl⟩ := List.exists_cons_of_ne_nil hne
  have hc : c.isDigit = true := hds c List.mem_cons_self
  have hfirst : step (.numeral part ⟨negative, ws, fs, some (minus, [])⟩) c =
      some (.numeral .exponent ⟨negative, ws, fs, some (minus, [c])⟩, []) := by
    rcases hp with rfl | rfl <;> simp [step, numeralStep, hc, addExponent]
  have hstep : ∀ n d, d.isDigit = true →
      step (.numeral .exponent n) d = some (.numeral .exponent (addExponent n d), []) := by
    intro n d hd
    simp [step, numeralStep, hd]
  rw [List.cons_append, run_cons_of_step hfirst,
    run_digits hstep _ _ _ _ fun d hd => hds d (List.mem_cons_of_mem _ hd), foldl_addExponent,
    List.reverse_cons]
  rfl

theorem run_exponent (negative : Bool) (ws fs : List Char) {part : NumeralPart}
    (hp : beforeExponent part = true) {exponent : Option (Bool × List Char)}
    (he : ∀ e, exponent = some e → e.2 ≠ [] ∧ ∀ c ∈ e.2, c.isDigit = true) {cs : List Char}
    (hs : Numeral.ExponentSpelled exponent cs) :
    ∃ last, canEnd last = true ∧ ∀ out rest,
      run out (.numeral part ⟨negative, ws, fs, none⟩) (cs ++ rest) =
        run out (.numeral last ⟨negative, ws, fs, exponent.map fun e => (e.1, e.2.reverse)⟩)
          rest := by
  have hmark : ∀ mark, isMark mark = true → step (.numeral part ⟨negative, ws, fs, none⟩) mark =
      some (.numeral .mark ⟨negative, ws, fs, some (false, [])⟩, []) := by
    intro mark hm
    rcases Bool.or_eq_true_iff.1 hm with h | h <;> obtain rfl := beq_iff_eq.1 h <;>
      cases part <;> first | rfl | cases hp
  cases hs with
  | none =>
    refine ⟨part, ?_, fun _ _ => rfl⟩
    cases part <;> first | rfl | cases hp
  | unsigned hm ds =>
    obtain ⟨hne, hds⟩ := he _ rfl
    refine ⟨.exponent, rfl, fun out rest => ?_⟩
    rw [List.cons_append, run_cons_of_step (hmark _ hm),
      run_exponentDigits negative false ws fs (Or.inl rfl) hne hds]
    rfl
  | signed hm minus ds =>
    obtain ⟨hne, hds⟩ := he _ rfl
    have hsign : step (.numeral .mark ⟨negative, ws, fs, some (false, [])⟩)
        (if minus then '-' else '+') =
          some (.numeral .markSign ⟨negative, ws, fs, some (minus, [])⟩, []) := by
      cases minus <;> rfl
    refine ⟨.exponent, rfl, fun out rest => ?_⟩
    rw [List.cons_append, List.cons_append, run_cons_of_step (hmark _ hm), run_cons_of_step hsign,
      run_exponentDigits negative minus ws fs (Or.inr rfl) hne hds]
    rfl

theorem run_numeral {n : Numeral} (hn : n.WellFormed) {cs : List Char} (hs : n.Spelled cs)
    (out : List Token) {rest : List Char} (hr : Delimited rest) :
    run out .between (cs ++ rest) = run (.number n :: out) .between rest := by
  obtain ⟨negative, ws, fs, exponent⟩ := n
  obtain ⟨es, hspelled, rfl⟩ := hs
  have hpart : (if ws = ['0'] then NumeralPart.zero else .whole) = .zero ∨
      (if ws = ['0'] then NumeralPart.zero else .whole) = .whole := by
    split
    · exact Or.inl rfl
    · exact Or.inr rfl
  obtain ⟨next, hnext, hfraction⟩ := run_fraction negative ws.reverse hpart hn.fraction
  obtain ⟨last, hlast, hexponent⟩ :=
    run_exponent negative ws.reverse fs.reverse hnext hn.exponent hspelled
  calc run out .between
        (((if negative then ['-'] else []) ++ (ws ++ (Numeral.fractionChars fs ++ es))) ++ rest)
      = run out .between ((if negative then ['-'] else []) ++
          (ws ++ (Numeral.fractionChars fs ++ (es ++ rest)))) := by
        simp only [List.append_assoc]
    _ = run out (.numeral last ⟨negative, ws.reverse, fs.reverse,
          exponent.map fun e => (e.1, e.2.reverse)⟩) rest := by
        rw [run_whole negative hn.whole, hfraction, hexponent]
    _ = run (.number (finish ⟨negative, ws.reverse, fs.reverse,
          exponent.map fun e => (e.1, e.2.reverse)⟩) :: out) .between rest :=
        run_ended hlast _ out hr
    _ = run (.number ⟨negative, ws, fs, exponent⟩ :: out) .between rest := by
        cases exponent <;> simp [finish]

end Scan

end OpsConsole.Json
