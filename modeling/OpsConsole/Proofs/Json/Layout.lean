import OpsConsole.Proofs.Json.Building
import OpsConsole.Proofs.Json.Strings

/-!
# The layout of a text

Each token has its spellings, and a text is laid out from tokens when spellings of them stand in
it one after the other, with any white space before, between and behind them. However the tokens of
a document are laid out, the document is read from the text.
-/

namespace OpsConsole.Json

/-- The spellings of a token. -/
inductive Lexeme : Token → List Char → Prop
  | openArray : Lexeme .openArray ['[']
  | closeArray : Lexeme .closeArray [']']
  | openObject : Lexeme .openObject ['\x7b']
  | closeObject : Lexeme .closeObject ['\x7d']
  | colon : Lexeme .colon [':']
  | comma : Lexeme .comma [',']
  | wordNull : Lexeme .null ['n', 'u', 'l', 'l']
  | wordTrue : Lexeme (.boolean true) ['t', 'r', 'u', 'e']
  | wordFalse : Lexeme (.boolean false) ['f', 'a', 'l', 's', 'e']
  | number {n : Numeral} {cs : List Char} (hn : n.WellFormed) (hs : n.Spelled cs) :
    Lexeme (.number n) cs
  | text {ps : List Piece} {cs : List Char} (h : Piece.Quoted ps cs) : Lexeme (.text ps) cs

def Blank (cs : List Char) : Prop := ∀ c ∈ cs, Scan.isSpace c = true

/-- Spellings of the tokens in order, apart from white space. -/
inductive LaidOut : List Token → List Char → Prop
  | nil {gap : List Char} (hgap : Blank gap) : LaidOut [] gap
  | cons {t : Token} {ts : List Token} {gap cs rest : List Char} (hgap : Blank gap)
      (ht : Lexeme t cs) (hts : LaidOut ts rest) : LaidOut (t :: ts) (gap ++ (cs ++ rest))

theorem blank_nil : Blank [] := by
  intro c hc
  cases hc

theorem Blank.append {gap cs : List Char} (hgap : Blank gap) (hcs : Blank cs) :
    Blank (gap ++ cs) := fun c hc => (List.mem_append.1 hc).elim (hgap c) (hcs c)

namespace LaidOut

variable {t : Token} {ts us : List Token} {cs ds rest : List Char}

theorem indent {gap : List Char} (hgap : Blank gap) (h : LaidOut ts cs) :
    LaidOut ts (gap ++ cs) := by
  cases h with
  | nil hfirst => exact .nil (hgap.append hfirst)
  | cons hfirst ht hts =>
    rw [← List.append_assoc]
    exact .cons (hgap.append hfirst) ht hts

theorem append (h : LaidOut ts cs) (h' : LaidOut us ds) : LaidOut (ts ++ us) (cs ++ ds) := by
  induction h with
  | nil hgap => exact h'.indent hgap
  | cons hgap ht _ ih =>
    rw [List.append_assoc, List.append_assoc]
    exact .cons hgap ht ih

theorem spell (ht : Lexeme t cs) (h : LaidOut ts rest) : LaidOut (t :: ts) (cs ++ rest) :=
  .cons blank_nil ht h

theorem single (ht : Lexeme t cs) : LaidOut [t] cs := by
  have h := spell ht (.nil blank_nil)
  rwa [List.append_nil] at h

theorem written (s : String) : LaidOut [.text (writtenPieces s)] (textChars s) :=
  .single (.text (Piece.quoted_textChars s))

/-- An object of two members, laid out without any white space between the members. -/
theorem pair (first second : String) {d e : Document} (hd : LaidOut d.tokens cs)
    (he : LaidOut e.tokens ds) :
    LaidOut (Document.object [(writtenPieces first, d), (writtenPieces second, e)]).tokens
      ('\x7b' :: (textChars first ++ ':' :: (cs ++
        ',' :: (textChars second ++ ':' :: (ds ++ ['\x7d']))))) :=
  .spell .openObject ((written first).append (.spell .colon (hd.append (.spell .comma
    ((written second).append (.spell .colon (he.append (.single .closeObject))))))))

end LaidOut

theorem delimited_cons {c : Char} (cs : List Char) (hd : c.isDigit = false) (hpoint : c ≠ '.')
    (hm : Scan.isMark c = false) : Delimited (c :: cs) := by
  rintro _ ⟨rfl⟩
  exact ⟨hd, hpoint, hm⟩

theorem delimited_of_isSpace {c : Char} (h : Scan.isSpace c = true) (cs : List Char) :
    Delimited (c :: cs) := by
  simp only [Scan.isSpace, Bool.or_eq_true, beq_iff_eq] at h
  rcases h with ((rfl | rfl) | rfl) | rfl <;> exact delimited_cons cs rfl (by decide) rfl

theorem Lexeme.delimited {t : Token} {cs : List Char} (h : Lexeme t cs)
    (ht : t.isNumber = false) (rest : List Char) : Delimited (cs ++ rest) := by
  cases h with
  | number => cases ht
  | text h =>
    obtain ⟨_, -, rfl⟩ := h
    exact delimited_cons _ rfl (by decide) rfl
  | _ => exact delimited_cons _ rfl (by decide) rfl

theorem LaidOut.delimited {ts : List Token} {cs : List Char} (h : LaidOut ts cs)
    (hts : Unnumbered ts) : Delimited cs := by
  cases h with
  | nil hgap =>
    cases cs with
    | nil => exact delimited_nil
    | cons c gap => exact delimited_of_isSpace (hgap c List.mem_cons_self) gap
  | @cons t ts gap cs rest hgap ht _ =>
    cases gap with
    | nil => exact ht.delimited (hts t rfl) rest
    | cons c gap => exact delimited_of_isSpace (hgap c List.mem_cons_self) _

namespace Scan

theorem run_blank {gap : List Char} (hgap : Blank gap) (out : List Token) (rest : List Char) :
    run out .between (gap ++ rest) = run out .between rest := by
  induction gap with
  | nil => rfl
  | cons c gap ih =>
    have hstep : step .between c = some (.between, []) := by
      simp [step, start, hgap c List.mem_cons_self]
    rw [List.cons_append, run_cons_of_step hstep]
    exact ih fun d hd => hgap d (List.mem_cons_of_mem _ hd)

theorem run_lexeme {t : Token} {cs : List Char} (h : Lexeme t cs) (out : List Token)
    {rest : List Char} (hrest : t.isNumber = true → Delimited rest) :
    run out .between (cs ++ rest) = run (t :: out) .between rest := by
  cases h with
  | number hn hs => exact run_numeral hn hs out (hrest rfl)
  | text h => exact run_quoted h out rest
  | _ => rfl

theorem run_laidOut {ts : List Token} {cs : List Char} (h : LaidOut ts cs) (hts : Separated ts)
    (out : List Token) : run out .between cs = some (out.reverse ++ ts) := by
  induction h generalizing out with
  | @nil gap hgap =>
    have hread := run_blank hgap out []
    rw [List.append_nil] at hread
    rw [hread, List.append_nil]
    rfl
  | cons hgap ht hrest ih =>
    obtain ⟨hnext, hseparated⟩ := separated_cons.1 hts
    -- A number needs what follows it to be delimited; no other token does.
    rw [run_blank hgap, run_lexeme ht out fun hnumber => hrest.delimited (hnext hnumber),
      ih hseparated]
    simp

end Scan

theorem tokens_of_laidOut {ts : List Token} {cs : List Char} (h : LaidOut ts cs)
    (hts : Separated ts) : tokens cs = some ts :=
  Scan.run_laidOut h hts []

theorem Document.parse_of_laidOut {d : Document} {cs : List Char} (h : LaidOut d.tokens cs) :
    Document.parse cs = some d := by
  rw [Document.parse, tokens_of_laidOut h d.separated]
  exact Build.document?_tokens d

end OpsConsole.Json
