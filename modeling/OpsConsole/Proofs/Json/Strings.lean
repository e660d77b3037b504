import OpsConsole.Json.Printer
import OpsConsole.Proofs.Json.Numerals

/-!
# Written strings

A string is quoted: between the quotes stands a spelling of each of its pieces, and the scanner
reads these pieces whichever spelling is used. The printer writes a control character without a
short escape as a code unit, every other character as itself or by its short escape. The pieces of
what it writes stand for the text again, so a written text is read back whatever its characters
are.
-/

namespace OpsConsole.Json

namespace Piece

/-- A character stands for itself or has a short escape; a code unit is given by its digits, in
either case. -/
inductive Spelled : Piece → List Char → Prop
  | plain {c : Char} (hquote : c ≠ '"') (hslash : c ≠ '\\') (hprint : ¬ c.toNat < 0x20) :
    Spelled (.char c) [c]
  | escaped {c d : Char} (h : Scan.escaped? c = some d) : Spelled (.char d) ['\\', c]
  | digits {a b c d : Char} {k l m n : Nat} (ha : Text.hexValue? a = some k)
      (hb : Text.hexValue? b = some l) (hc : Text.hexValue? c = some m)
      (hd : Text.hexValue? d = some n) :
    Spelled (.unit (((k * 16 + l) * 16 + m) * 16 + n)) ['\\', 'u', a, b, c, d]

inductive AllSpelled : List Piece → List Char → Prop
  | nil : AllSpelled [] []
  | cons {p : Piece} {ps : List Piece} {cs rest : List Char} (hp : p.Spelled cs)
      (hps : AllSpelled ps rest) : AllSpelled (p :: ps) (cs ++ rest)

/-- The pieces in some spelling, between quotes. -/
def Quoted (ps : List Piece) (cs : List Char) : Prop :=
  ∃ body, AllSpelled ps body ∧ cs = '"' :: (body ++ ['"'])

end Piece

namespace Scan

theorem run_piece {p : Piece} {cs : List Char} (h : p.Spelled cs) (pieces : List Piece)
    (out : List Token) (rest : List Char) :
    run out (.text pieces) (cs ++ rest) = run out (.text (p :: pieces)) rest := by
  have hslash : step (.text pieces) '\\' = some (.escape pieces, []) := rfl
  cases h with
  | @plain c hquote hbackslash hprint =>
    have hstep : step (.text pieces) c = some (.text (.char c :: pieces), []) := by
      rw [step, if_neg hquote, if_neg hbackslash, if_neg hprint]
    exact run_cons_of_step hstep out rest
  | @escaped c d h =>
    have hu : c ≠ 'u' := by
      rintro rfl
      cases h
    have hstep : step (.escape pieces) c = some (.text (.char d :: pieces), []) := by
      rw [step, if_neg hu, h]
      rfl
    rw [List.cons_append, run_cons_of_step hslash]
    exact run_cons_of_step hstep out rest
  | digits ha hb hc hd =>
    have hu : step (.escape pieces) 'u' = some (.unicode pieces 4 0, []) := rfl
    rw [List.cons_append, run_cons_of_step hslash, List.cons_append, run_cons_of_step hu]
    simp [run_cons, step, ha, hb, hc, hd]

theorem run_pieces {ps : List Piece} {cs : List Char} (h : Piece.AllSpelled ps cs)
    (pieces : List Piece) (out : List Token) (rest : List Char) :
    run out (.text pieces) (cs ++ rest) = run out (.text (ps.reverse ++ pieces)) rest := by
  induction h generalizing pieces with
  | nil => rfl
  | cons hp _ ih =>
    rw [List.append_assoc, run_piece hp, ih]
    simp

theorem run_quoted {ps : List Piece} {cs : List Char} (h : Piece.Quoted ps cs) (out : List Token)
    (rest : List Char) : run out .between (cs ++ rest) = run (.text ps :: out) .between rest := by
  obtain ⟨body, hbody, rfl⟩ := h
  have hopen : step .between '"' = some (.text [], []) := rfl
  have hclose : step (.text ps.reverse) '"' = some (.between, [.text ps.reverse.reverse]) := rfl
  simp only [List.cons_append, List.append_assoc, List.nil_append]
  rw [run_cons_of_step hopen, run_pieces hbody, List.append_nil, run_cons_of_step hclose,
    List.reverse_reverse]
  rfl

end Scan

/-- A control character that is written with four digits. -/
def isEscapedByDigits (c : Char) : Bool :=
  c.toNat < 0x20 && !(['\n', '\r', '\t', '\x08', '\x0c'].contains c)

/-- The piece that a written character is read as. -/
def writtenPiece (c : Char) : Piece :=
  if isEscapedByDigits c then .unit c.toNat else .char c

def textChars (s : String) : List Char := '"' :: (s.toList.flatMap escape ++ ['"'])

def writtenPieces (s : String) : List Piece := s.toList.map writtenPiece

theorem writeText_eq (out : List Char) (s : String) :
    writeText out s = (textChars s).reverse ++ out := by
  have hfold : ∀ cs : List Char, ∀ out,
      cs.foldl (fun out c => push out (escape c)) out = (cs.flatMap escape).reverse ++ out := by
    intro cs
    induction cs with
    | nil => exact fun _ => rfl
    | cons c cs ih =>
      intro out
      rw [List.foldl_cons, ih]
      simp only [push, List.flatMap_cons, List.reverse_append, List.append_assoc,
        List.reverseAux_eq]
  simp [writeText, hfold, textChars]

theorem hexValue?_hexDigit : ∀ d, d < 16 → Text.hexValue? (hexDigit d) = some d := by decide

theorem escape_of_digits {c : Char} (h : isEscapedByDigits c = true) :
    escape c = ['\\', 'u', '0', '0', hexDigit (c.toNat / 16), hexDigit (c.toNat % 16)] := by
  simp only [isEscapedByDigits, Bool.and_eq_true, decide_eq_true_eq] at h
  obtain ⟨hlow, hshort⟩ := h
  unfold escape
  split <;> first | rfl | (exfalso; revert hlow hshort; decide) | skip
  rw [if_pos hlow]

namespace Piece

theorem spelled_escape (c : Char) : (writtenPiece c).Spelled (escape c) := by
  by_cases hdigits : isEscapedByDigits c = true
  · have hlow : c.toNat < 0x20 := by
      simp only [isEscapedByDigits, Bool.and_eq_true, decide_eq_true_eq] at hdigits
      exact hdigits.1
    have hzero : Text.hexValue? '0' = some 0 := by decide
    have hspelled := Spelled.digits hzero hzero (hexValue?_hexDigit (c.toNat / 16) (by omega))
      (hexValue?_hexDigit (c.toNat % 16) (by omega))
    have hsum : ((0 * 16 + 0) * 16 + c.toNat / 16) * 16 + c.toNat % 16 = c.toNat := by omega
    rw [hsum] at hspelled
    rwa [writtenPiece, if_pos hdigits, escape_of_digits hdigits]
  · rw [writtenPiece, if_neg hdigits]
    unfold escape
    split
    all_goals try exact .escaped rfl
    next hquote hslash _ _ _ _ _ =>
      -- The control characters that get here are those escaped by digits.
      have hplain : ¬ c.toNat < 0x20 := by
        intro hlow
        simp_all [isEscapedByDigits]
      rw [if_neg hplain]
      exact .plain hquote hslash hplain

theorem quoted_textChars (s : String) : Quoted (writtenPieces s) (textChars s) := by
  have hbody : ∀ cs : List Char, AllSpelled (cs.map writtenPiece) (cs.flatMap escape) := by
    intro cs
    induction cs with
    | nil => exact .nil
    | cons c cs ih => exact .cons (spelled_escape c) ih
  exact ⟨_, hbody s.toList, rfl⟩

theorem decodeOnto_writtenPiece (c : Char) (out : List Char) (rest : List Piece) :
    decodeOnto out (writtenPiece c :: rest) = decodeOnto (c :: out) rest := by
  by_cases hdigits : isEscapedByDigits c = true
  · have hlow : c.toNat < 0x20 := by
      simp only [isEscapedByDigits, Bool.and_eq_true, decide_eq_true_eq] at hdigits
      exact hdigits.1
    have hhigh : isHigh c.toNat = false := by
      simp only [isHigh, Bool.and_eq_false_iff, decide_eq_false_iff_not]
      omega
    have hsecond : isLow c.toNat = false := by
      simp only [isLow, Bool.and_eq_false_iff, decide_eq_false_iff_not]
      omega
    rw [writtenPiece, if_pos hdigits]
    rcases rest with _ | ⟨d | m, rest⟩ <;> simp [decodeOnto, hhigh, hsecond, Char.ofNat_toNat]
  · rw [writtenPiece, if_neg hdigits]
    rfl

theorem text?_writtenPieces (s : String) : text? (writtenPieces s) = some s := by
  have honto : ∀ cs : List Char, ∀ out,
      decodeOnto out (cs.map writtenPiece) = some (cs.reverse ++ out) := by
    intro cs
    induction cs with
    | nil => exact fun _ => rfl
    | cons c cs ih =>
      intro out
      rw [List.map_cons, decodeOnto_writtenPiece, ih]
      simp
  rw [text?, writtenPieces, honto]
  simp

end Piece

end OpsConsole.Json
