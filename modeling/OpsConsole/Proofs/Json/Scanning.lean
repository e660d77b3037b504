import Mathlib.Data.List.Forall2
import OpsConsole.Proofs.Json.Layout

/-!
# Only layouts are read

The scanner accepts nothing but layouts. What it has consumed is, in each of its states, a layout
of the tokens read and then a part of the token that the state is in the middle of; each step
extends it by one character, and at the end the last token is complete. So a text is a JSON text
exactly when it is a layout of the tokens of a document, which is then the document read from it.
-/

namespace OpsConsole.Json

theorem Numeral.ExponentSpelled.snoc {minus : Bool} {ds cs : List Char}
    (h : ExponentSpelled (some (minus, ds)) cs) (c : Char) :
    ExponentSpelled (some (minus, ds ++ [c])) (cs ++ [c]) := by
  cases h with
  | unsigned hm => exact .unsigned hm _
  | signed hm => exact .signed hm minus _

theorem Piece.AllSpelled.snoc {p : Piece} {ps : List Piece} {cs ds : List Char}
    (h : AllSpelled ps cs) (hp : p.Spelled ds) : AllSpelled (ps ++ [p]) (cs ++ ds) := by
  induction h with
  | nil =>
    have hsingle := AllSpelled.cons hp .nil
    rwa [List.append_nil] at hsingle
  | cons hfirst _ ih =>
    rw [List.append_assoc]
    exact .cons hfirst ih

theorem IsWhole.single {c : Char} (hc : c.isDigit = true) : IsWhole [c] := by
  refine ⟨List.cons_ne_nil _ _, ?_, ?_⟩
  · rintro d hd
    obtain rfl := List.mem_singleton.1 hd
    exact hc
  · intro h
    obtain rfl := Option.some.inj h
    rfl

/-- A digit behind digits that are not a zero alone. -/
theorem IsWhole.snoc {ws : List Char} (hw : IsWhole ws) (h0 : ws ≠ ['0']) {c : Char}
    (hc : c.isDigit = true) : IsWhole (ws ++ [c]) ∧ ws ++ [c] ≠ ['0'] := by
  obtain ⟨d, ds, rfl⟩ := List.exists_cons_of_ne_nil hw.ne_nil
  have hlead : d ≠ '0' := by
    rintro rfl
    exact h0 (hw.lead rfl)
  refine ⟨⟨by simp, ?_, ?_⟩, by simp [hlead]⟩
  · intro e he
    rcases List.mem_append.1 he with he | he
    · exact hw.digits e he
    · rwa [List.mem_singleton.1 he]
  · intro h
    exact (hlead (Option.some.inj h)).elim

namespace Scan

/-- The sign and the digits of a numeral, of which the scanner holds the newest first. -/
def mantissa (negative : Bool) (ws fs : List Char) : List Char :=
  (if negative then ['-'] else []) ++ (ws.reverse ++ Numeral.fractionChars fs.reverse)

/-- What has been read of a numeral. -/
inductive Numbered : NumeralPart → Numeral → List Char → Prop
  | sign : Numbered .sign ⟨true, [], [], none⟩ ['-']
  | zero (negative : Bool) : Numbered .zero ⟨negative, ['0'], [], none⟩ (mantissa negative ['0'] [])
  | whole {negative : Bool} {ws : List Char} (hw : IsWhole ws.reverse) (h0 : ws.reverse ≠ ['0']) :
    Numbered .whole ⟨negative, ws, [], none⟩ (mantissa negative ws [])
  | point {negative : Bool} {ws : List Char} (hw : IsWhole ws.reverse) :
    Numbered .point ⟨negative, ws, [], none⟩ (mantissa negative ws [] ++ ['.'])
  | fraction {negative : Bool} {ws fs : List Char} (hw : IsWhole ws.reverse) (hne : fs ≠ [])
      (hf : ∀ c ∈ fs, c.isDigit = true) :
    Numbered .fraction ⟨negative, ws, fs, none⟩ (mantissa negative ws fs)
  | mark {negative : Bool} {ws fs : List Char} {m : Char} (hw : IsWhole ws.reverse)
      (hf : ∀ c ∈ fs, c.isDigit = true) (hm : isMark m = true) :
    Numbered .mark ⟨negative, ws, fs, some (false, [])⟩ (mantissa negative ws fs ++ [m])
  | markSign {negative : Bool} {ws fs : List Char} {m : Char} (hw : IsWhole ws.reverse)
      (hf : ∀ c ∈ fs, c.isDigit = true) (hm : isMark m = true) (minus : Bool) :
    Numbered .markSign ⟨negative, ws, fs, some (minus, [])⟩
      (mantissa negative ws fs ++ [m, if minus then '-' else '+'])
  | exponent {negative minus : Bool} {ws fs es cs : List Char} (hw : IsWhole ws.reverse)
      (hf : ∀ c ∈ fs, c.isDigit = true) (hne : es ≠ []) (hes : ∀ c ∈ es, c.isDigit = true)
      (hs : Numeral.ExponentSpelled (some (minus, es.reverse)) cs) :
    Numbered .exponent ⟨negative, ws, fs, some (minus, es)⟩ (mantissa negative ws fs ++ cs)

/-- What has been read of the token that a state is in the middle of. -/
inductive Partial : Scan → List Char → Prop
  | between : Partial .between []
  | word {rest cs : List Char} {token : Token} (h : Lexeme token (cs ++ rest)) :
    Partial (.word rest token) cs
  | text {pieces : List Piece} {body : List Char} (h : Piece.AllSpelled pieces.reverse body) :
    Partial (.text pieces) ('"' :: body)
  | escape {pieces : List Piece} {body : List Char} (h : Piece.AllSpelled pieces.reverse body) :
    Partial (.escape pieces) ('"' :: (body ++ ['\\']))
  | unicode {pieces : List Piece} {body hs : List Char} {ds : List Nat} {due : Nat}
      (h : Piece.AllSpelled pieces.reverse body)
      (hds : List.Forall₂ (fun c d => Text.hexValue? c = some d) hs ds)
      (hdue : hs.length + due = 3) :
    Partial (.unicode pieces (due + 1) (ds.foldl (fun n d => n * 16 + d) 0))
      ('"' :: (body ++ '\\' :: 'u' :: hs))
  | numeral {part : NumeralPart} {n : Numeral} {cs : List Char} (h : Numbered part n cs) :
    Partial (.numeral part n) cs

/-- The tokens and the characters that lead to a state. -/
def Consumed (s : Scan) (ts : List Token) (cs : List Char) : Prop :=
  ∃ full part, LaidOut ts full ∧ s.Partial part ∧ cs = full ++ part

theorem Consumed.ofPartial {s : Scan} {cs : List Char} (h : s.Partial cs) : s.Consumed [] cs :=
  ⟨[], cs, .nil blank_nil, h, rfl⟩

theorem Consumed.ofLexeme {t : Token} {cs : List Char} (h : Lexeme t cs) :
    Consumed .between [t] cs :=
  ⟨cs, [], .single h, .between, (List.append_nil cs).symm⟩

theorem Consumed.after {s : Scan} {ts us : List Token} {cs full : List Char}
    (hfull : LaidOut us full) (h : s.Consumed ts cs) : s.Consumed (us ++ ts) (full ++ cs) := by
  obtain ⟨gone, part, hgone, hpart, rfl⟩ := h
  exact ⟨full ++ gone, part, hfull.append hgone, hpart, by rw [List.append_assoc]⟩

theorem consumed_start {c : Char} {s : Scan} {ts : List Token} (h : start c = some (s, ts)) :
    s.Consumed ts [c] := by
  unfold start at h
  split at h
  · next hspace =>
    cases h
    have hblank : Blank [c] := by
      intro d hd
      rwa [List.mem_singleton.1 hd]
    exact ⟨[c], [], .nil hblank, .between, rfl⟩
  · split at h
    · next h0 =>
      cases h
      subst h0
      exact .ofPartial (.numeral (.zero false))
    · split at h
      · next h0 hdigit =>
        cases h
        have hne : [c] ≠ ['0'] := by simpa using h0
        exact .ofPartial (.numeral (.whole (.single hdigit) hne))
      · split at h <;> cases h
        exacts [.ofLexeme .openArray, .ofLexeme .closeArray, .ofLexeme .openObject,
          .ofLexeme .closeObject, .ofLexeme .colon, .ofLexeme .comma, .ofPartial (.text .nil),
          .ofPartial (.word .wordNull), .ofPartial (.word .wordTrue),
          .ofPartial (.word .wordFalse), .ofPartial (.numeral .sign)]

theorem forall_digit_reverse {ds : List Char} (h : ∀ c ∈ ds, c.isDigit = true) :
    ∀ c ∈ ds.reverse, c.isDigit = true := fun c hc => h c (List.mem_reverse.1 hc)

theorem spelled_mantissa (negative : Bool) (ws fs cs : List Char)
    {exponent : Option (Bool × List Char)} (h : Numeral.ExponentSpelled exponent cs) :
    Numeral.Spelled ⟨negative, ws.reverse, fs.reverse, exponent⟩ (mantissa negative ws fs ++ cs) :=
  ⟨cs, h, by simp [mantissa]⟩

theorem Numbered.lexeme {part : NumeralPart} {n : Numeral} {cs : List Char}
    (h : Numbered part n cs) (hend : canEnd part = true) : Lexeme (.number (finish n)) cs := by
  have hwhole : ∀ {negative ws fs}, IsWhole ws.reverse → (∀ c ∈ fs, c.isDigit = true) →
      Lexeme (.number ⟨negative, ws.reverse, fs.reverse, none⟩) (mantissa negative ws fs) := by
    intro negative ws fs hw hf
    have hspelled := spelled_mantissa negative ws fs [] .none
    rw [List.append_nil] at hspelled
    exact .number ⟨hw, forall_digit_reverse hf, nofun⟩ hspelled
  cases h with
  | zero => exact hwhole (.single rfl) nofun
  | whole hw => exact hwhole hw nofun
  | fraction hw _ hf => exact hwhole hw hf
  | exponent hw hf hne hes hs =>
    refine .number ⟨hw, forall_digit_reverse hf, ?_⟩ (spelled_mantissa _ _ _ _ hs)
    rintro _ ⟨rfl⟩
    exact ⟨by simpa using hne, forall_digit_reverse hes⟩
  | _ => cases hend

theorem Numbered.ended {part : NumeralPart} {n : Numeral} {cs : List Char}
    (hn : Numbered part n cs) (hend : canEnd part = true) {c : Char} {s : Scan} {ts : List Token}
    (h : endNumeral n c = some (s, ts)) : s.Consumed ts (cs ++ [c]) := by
  obtain ⟨⟨t, us⟩, hstart, heq⟩ := Option.map_eq_some_iff.1 h
  cases heq
  exact .after (.single (hn.lexeme hend)) (consumed_start hstart)

theorem forall_digit_cons {c : Char} (hc : c.isDigit = true) {ds : List Char}
    (h : ∀ c ∈ ds, c.isDigit = true) : ∀ d ∈ c :: ds, d.isDigit = true :=
  List.forall_mem_cons.2 ⟨hc, h⟩

section NumeralStep

variable {negative minus : Bool} {ws fs es cs : List Char} {m c : Char} {s : Scan}
  {ts : List Token}

theorem mantissa_whole : mantissa negative (c :: ws) [] = mantissa negative ws [] ++ [c] := by
  simp [mantissa, Numeral.fractionChars]

theorem mantissa_point : mantissa negative ws [c] = mantissa negative ws [] ++ ['.'] ++ [c] := by
  simp [mantissa, Numeral.fractionChars]

theorem mantissa_fraction (hne : fs ≠ []) :
    mantissa negative ws (c :: fs) = mantissa negative ws fs ++ [c] := by
  obtain ⟨d, ds, hds⟩ := List.exists_cons_of_ne_nil (mt List.reverse_eq_nil_iff.1 hne)
  simp [mantissa, Numeral.fractionChars, hds]

/-- The first digit of an exponent or a further one. -/
theorem Numbered.exponentDigit (hw : IsWhole ws.reverse) (hf : ∀ c ∈ fs, c.isDigit = true)
    (hes : ∀ c ∈ es, c.isDigit = true)
    (hs : Numeral.ExponentSpelled (some (minus, es.reverse)) cs) (hc : c.isDigit = true) :
    Numbered .exponent ⟨negative, ws, fs, some (minus, c :: es)⟩
      (mantissa negative ws fs ++ cs ++ [c]) := by
  have hs' := hs.snoc c
  rw [← List.reverse_cons] at hs'
  rw [List.append_assoc]
  exact .exponent hw hf (List.cons_ne_nil c es) (forall_digit_cons hc hes) hs'

theorem consumed_sign (h : numeralStep .sign ⟨true, [], [], none⟩ c = some (s, ts)) :
    s.Consumed ts ['-', c] := by
  simp only [numeralStep] at h
  split at h
  · next hzero =>
    cases h
    subst hzero
    exact .ofPartial (.numeral (.zero true))
  · next hzero =>
    split at h
    · next hdigit =>
      cases h
      have hne : [c] ≠ ['0'] := by simpa using hzero
      exact .ofPartial (.numeral (.whole (.single hdigit) hne))
    · cases h

theorem consumed_zero (h : numeralStep .zero ⟨negative, ['0'], [], none⟩ c = some (s, ts)) :
    s.Consumed ts (mantissa negative ['0'] [] ++ [c]) := by
  simp only [numeralStep] at h
  split at h
  · next hpoint =>
    cases h
    subst hpoint
    exact .ofPartial (.numeral (.point (.single rfl)))
  · split at h
    · next hm =>
      cases h
      exact .ofPartial (.numeral (.mark (.single rfl) (List.forall_mem_nil _) hm))
    · split at h
      · cases h
      · exact (Numbered.zero negative).ended rfl h

theorem consumed_whole (hw : IsWhole ws.reverse) (h0 : ws.reverse ≠ ['0'])
    (h : numeralStep .whole ⟨negative, ws, [], none⟩ c = some (s, ts)) :
    s.Consumed ts (mantissa negative ws [] ++ [c]) := by
  simp only [numeralStep] at h
  split at h
  · next hdigit =>
    cases h
    obtain ⟨hw', h0'⟩ := hw.snoc h0 hdigit
    rw [← List.reverse_cons] at hw' h0'
    rw [← mantissa_whole]
    exact .ofPartial (.numeral (.whole hw' h0'))
  · split at h
    · next hpoint =>
      cases h
      subst hpoint
      exact .ofPartial (.numeral (.point hw))
    · split at h
      · next hm =>
        cases h
        exact .ofPartial (.numeral (.mark hw (List.forall_mem_nil _) hm))
      · exact (Numbered.whole hw h0).ended rfl h

theorem consumed_point (hw : IsWhole ws.reverse)
    (h : numeralStep .point ⟨negative, ws, [], none⟩ c = some (s, ts)) :
    s.Consumed ts (mantissa negative ws [] ++ ['.'] ++ [c]) := by
  simp only [numeralStep] at h
  split at h
  · next hdigit =>
    cases h
    have hf : ∀ d ∈ [c], d.isDigit = true := forall_digit_cons hdigit (List.forall_mem_nil _)
    rw [← mantissa_point]
    exact .ofPartial (.numeral (.fraction hw (List.cons_ne_nil c []) hf))
  · cases h

theorem consumed_fraction (hw : IsWhole ws.reverse) (hne : fs ≠ [])
    (hf : ∀ c ∈ fs, c.isDigit = true)
    (h : numeralStep .fraction ⟨negative, ws, fs, none⟩ c = some (s, ts)) :
    s.Consumed ts (mantissa negative ws fs ++ [c]) := by
  simp only [numeralStep] at h
  split at h
  · next hdigit =>
    cases h
    rw [← mantissa_fraction hne]
    exact .ofPartial (.numeral (.fraction hw (List.cons_ne_nil c fs)
      (forall_digit_cons hdigit hf)))
  · split at h
    · next hm =>
      cases h
      exact .ofPartial (.numeral (.mark hw hf hm))
    · exact (Numbered.fraction hw hne hf).ended rfl h

theorem consumed_mark (hw : IsWhole ws.reverse) (hf : ∀ c ∈ fs, c.isDigit = true)
    (hm : isMark m = true)
    (h : numeralStep .mark ⟨negative, ws, fs, some (false, [])⟩ c = some (s, ts)) :
    s.Consumed ts (mantissa negative ws fs ++ [m] ++ [c]) := by
  simp only [numeralStep] at h
  split at h
  · next hdigit =>
    cases h
    exact .ofPartial (.numeral (.exponentDigit hw hf (List.forall_mem_nil _) (.unsigned hm [])
      hdigit))
  · rw [List.append_assoc]
    split at h
    · next hminus =>
      cases h
      subst hminus
      exact .ofPartial (.numeral (.markSign hw hf hm true))
    · split at h
      · next hplus =>
        cases h
        subst hplus
        exact .ofPartial (.numeral (.markSign hw hf hm false))
      · cases h

theorem consumed_markSign (hw : IsWhole ws.reverse) (hf : ∀ c ∈ fs, c.isDigit = true)
    (hm : isMark m = true)
    (h : numeralStep .markSign ⟨negative, ws, fs, some (minus, [])⟩ c = some (s, ts)) :
    s.Consumed ts (mantissa negative ws fs ++ [m, if minus then '-' else '+'] ++ [c]) := by
  simp only [numeralStep] at h
  split at h
  · next hdigit =>
    cases h
    exact .ofPartial (.numeral (.exponentDigit hw hf (List.forall_mem_nil _)
      (.signed hm minus []) hdigit))
  · cases h

theorem consumed_exponent (hw : IsWhole ws.reverse) (hf : ∀ c ∈ fs, c.isDigit = true)
    (hne : es ≠ []) (hes : ∀ c ∈ es, c.isDigit = true)
    (hs : Numeral.ExponentSpelled (some (minus, es.reverse)) cs)
    (h : numeralStep .exponent ⟨negative, ws, fs, some (minus, es)⟩ c = some (s, ts)) :
    s.Consumed ts (mantissa negative ws fs ++ cs ++ [c]) := by
  simp only [numeralStep] at h
  split at h
  · next hdigit =>
    cases h
    exact .ofPartial (.numeral (.exponentDigit hw hf hes hs hdigit))
  · exact (Numbered.exponent hw hf hne hes hs).ended rfl h

end NumeralStep

theorem consumed_numeralStep {part : NumeralPart} {n : Numeral} {cs : List Char}
    (hn : Numbered part n cs) {c : Char} {s : Scan} {ts : List Token}
    (h : numeralStep part n c = some (s, ts)) : s.Consumed ts (cs ++ [c]) := by
  cases hn with
  | sign => exact consumed_sign h
  | zero => exact consumed_zero h
  | whole hw h0 => exact consumed_whole hw h0 h
  | point hw => exact consumed_point hw h
  | fraction hw hne hf => exact consumed_fraction hw hne hf h
  | mark hw hf hm => exact consumed_mark hw hf hm h
  | markSign hw hf hm => exact consumed_markSign hw hf hm h
  | exponent hw hf hne hes hs => exact consumed_exponent hw hf hne hes hs h

theorem Partial.snocPiece {p : Piece} {pieces : List Piece} {body cs : List Char}
    (h : Piece.AllSpelled pieces.reverse body) (hp : p.Spelled cs) :
    Partial (.text (p :: pieces)) ('"' :: (body ++ cs)) := by
  have hall := h.snoc hp
  rw [← List.reverse_cons] at hall
  exact .text hall

section TokenStep

variable {s : Scan} {pieces : List Piece} {body : List Char} {c : Char} {ts : List Token}

theorem consumed_word {rest cs : List Char} {token : Token} (hword : Lexeme token (cs ++ rest))
    (h : step (.word rest token) c = some (s, ts)) : s.Consumed ts (cs ++ [c]) := by
  cases rest with
  | nil => cases h
  | cons d rest =>
    simp only [step] at h
    split at h
    · cases h
    · next heq =>
      obtain rfl := not_not.1 heq
      split at h
      · next hlast =>
        cases h
        obtain rfl := List.isEmpty_iff.1 hlast
        exact .ofLexeme hword
      · cases h
        rw [← List.singleton_append, ← List.append_assoc] at hword
        exact .ofPartial (.word hword)

theorem consumed_text (hbody : Piece.AllSpelled pieces.reverse body)
    (h : step (.text pieces) c = some (s, ts)) : s.Consumed ts ('"' :: (body ++ [c])) := by
  simp only [step] at h
  split at h
  · next hquote =>
    cases h
    subst hquote
    exact .ofLexeme (.text ⟨body, hbody, rfl⟩)
  · next hquote =>
    split at h
    · next hslash =>
      cases h
      subst hslash
      exact .ofPartial (.escape hbody)
    · next hslash =>
      split at h
      · cases h
      · next hprint =>
        cases h
        exact .ofPartial (.snocPiece hbody (.plain hquote hslash hprint))

theorem consumed_escape (hbody : Piece.AllSpelled pieces.reverse body)
    (h : step (.escape pieces) c = some (s, ts)) :
    s.Consumed ts ('"' :: (body ++ ['\\', c])) := by
  simp only [step] at h
  split at h
  · next hu =>
    cases h
    subst hu
    exact .ofPartial (.unicode hbody .nil rfl)
  · obtain ⟨d, hd, heq⟩ := Option.map_eq_some_iff.1 h
    cases heq
    exact .ofPartial (.snocPiece hbody (.escaped hd))

theorem consumed_unicode {hs : List Char} {ds : List Nat} {due : Nat}
    (hbody : Piece.AllSpelled pieces.reverse body)
    (hds : List.Forall₂ (fun c d => Text.hexValue? c = some d) hs ds) (hdue : hs.length + due = 3)
    (h : step (.unicode pieces (due + 1) (ds.foldl (fun n d => n * 16 + d) 0)) c = some (s, ts)) :
    s.Consumed ts ('"' :: (body ++ '\\' :: 'u' :: (hs ++ [c]))) := by
  obtain ⟨d, hd, heq⟩ := Option.map_eq_some_iff.1 h
  cases due with
  | zero =>
    -- The fourth digit completes the escape.
    obtain ⟨a, b, e, rfl⟩ := List.length_eq_three.1 hdue
    obtain ⟨k, l, m, rfl⟩ := List.length_eq_three.1 (hds.length_eq.symm.trans hdue)
    simp only [List.forall₂_cons, List.forall₂_nil_left_iff, and_true] at hds
    obtain ⟨ha, hb, he⟩ := hds
    cases heq
    have hspelled := Piece.Spelled.digits ha hb he hd
    rw [show k = 0 * 16 + k by omega] at hspelled
    exact .ofPartial (.snocPiece hbody hspelled)
  | succ due =>
    cases heq
    have hrest : (hs ++ [c]).length + due = 3 := by
      rw [List.length_append, List.length_singleton]
      omega
    have hnext := Partial.unicode hbody (List.rel_append hds (.cons hd .nil)) hrest
    rw [List.foldl_append] at hnext
    exact .ofPartial hnext

end TokenStep

theorem consumed_of_partial {s next : Scan} {part : List Char} (hpart : s.Partial part) {c : Char}
    {ts : List Token} (h : s.step c = some (next, ts)) : next.Consumed ts (part ++ [c]) := by
  cases hpart with
  | between => exact consumed_start h
  | word hword => exact consumed_word hword h
  | text hbody => exact consumed_text hbody h
  | escape hbody =>
    rw [List.cons_append, List.append_assoc]
    exact consumed_escape hbody h
  | unicode hbody hds hdue =>
    rw [List.cons_append, List.append_assoc, List.cons_append, List.cons_append]
    exact consumed_unicode hbody hds hdue h
  | numeral hn => exact consumed_numeralStep hn h

theorem Consumed.step {s next : Scan} {ts us : List Token} {cs : List Char} {c : Char}
    (hs : s.Consumed ts cs) (h : s.step c = some (next, us)) :
    next.Consumed (ts ++ us) (cs ++ [c]) := by
  obtain ⟨full, part, hfull, hpart, rfl⟩ := hs
  rw [List.append_assoc]
  exact (consumed_of_partial hpart h).after hfull

theorem Consumed.atEnd {s : Scan} {ts us : List Token} {cs : List Char} (hs : s.Consumed ts cs)
    (h : s.atEnd = some us) : LaidOut (ts ++ us) cs := by
  obtain ⟨full, part, hfull, hpart, rfl⟩ := hs
  cases hpart with
  | between =>
    cases h
    rwa [List.append_nil, List.append_nil]
  | @numeral part n cs hn =>
    simp only [Scan.atEnd] at h
    split at h
    · next hlast =>
      cases h
      have hend : canEnd part = true := by
        rcases hlast with rfl | rfl | rfl | rfl <;> rfl
      exact hfull.append (.single (hn.lexeme hend))
    · cases h
  | _ => cases h

theorem Consumed.run {s : Scan} {out ts : List Token} {before cs : List Char}
    (hs : s.Consumed out.reverse before) (h : run out s cs = some ts) :
    LaidOut ts (before ++ cs) := by
  induction cs generalizing s out before with
  | nil =>
    obtain ⟨us, hus, rfl⟩ := Option.map_eq_some_iff.1 h
    rw [List.append_nil, List.reverseAux_eq, List.reverse_append, List.reverse_reverse]
    exact hs.atEnd hus
  | cons c cs ih =>
    rw [run_cons] at h
    split at h
    · cases h
    · next next us hstep =>
      have hnext := hs.step hstep
      -- The tokens read are held newest first.
      rw [← List.reverse_reverse us, ← List.reverse_append, ← List.reverseAux_eq] at hnext
      have hrest := ih hnext h
      rwa [List.append_assoc] at hrest

end Scan

theorem laidOut_of_tokens {ts : List Token} {cs : List Char} (h : tokens cs = some ts) :
    LaidOut ts cs := by
  have hstart : Scan.Consumed .between ([] : List Token).reverse [] := .ofPartial .between
  exact hstart.run h

/-- A document is read from its layouts and from nothing else. -/
theorem Document.parse_eq_some_iff {cs : List Char} {d : Document} :
    Document.parse cs = some d ↔ LaidOut d.tokens cs := by
  refine ⟨fun h => ?_, parse_of_laidOut⟩
  obtain ⟨b, hb, hd⟩ := Option.bind_eq_some_iff.1 h
  obtain ⟨ts, hts, hbuild⟩ := Option.bind_eq_some_iff.1 hb
  have htokens : ts = d.tokens := Build.eq_tokens_of_document? (by rw [hbuild]; exact hd)
  rw [← htokens]
  exact laidOut_of_tokens hts

end OpsConsole.Json
