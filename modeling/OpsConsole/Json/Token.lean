import OpsConsole.Json.Numeral
import OpsConsole.Text.Fields
import OpsConsole.Text.Utf8

/-!
# The tokens of a JSON text

`tokens` reads a text character by character. A state says what the reader is in the middle of;
`step` takes one character more and gives the tokens it completes: none, one, or two when a
bracket or a comma ends a numeral. A string is kept as it is written, in pieces, because a string
whose content is never looked at may hold escapes that stand for no character. `byteTokens` reads
bytes, which in such a string need not be UTF-8 either.
-/

namespace OpsConsole.Json

/-- A part of a string: a character, the code unit of a four-digit escape, or bytes that are no
character. -/
inductive Piece
  | char (c : Char)
  | unit (n : Nat)
  | stray
  deriving DecidableEq, Inhabited

namespace Piece

def isHigh (n : Nat) : Bool := 0xD800 ≤ n && n ≤ 0xDBFF

def isLow (n : Nat) : Bool := 0xDC00 ≤ n && n ≤ 0xDFFF

def paired (high low : Nat) : Char :=
  Char.ofNat (0x10000 + (high - 0xD800) * 0x400 + (low - 0xDC00))

/-- Adds the characters of the pieces to those read, newest first. A surrogate must be paired. -/
def decodeOnto (out : List Char) : List Piece → Option (List Char)
  | [] => some out
  | .stray :: _ => none
  | .char c :: r => decodeOnto (c :: out) r
  | .unit n :: .unit m :: r =>
    if isHigh n then
      if isLow m then decodeOnto (paired n m :: out) r else none
    else if isLow n then none
    else decodeOnto (Char.ofNat n :: out) (.unit m :: r)
  | .unit n :: r =>
    if isHigh n || isLow n then none else decodeOnto (Char.ofNat n :: out) r

def text? (pieces : List Piece) : Option String :=
  (decodeOnto [] pieces).map fun cs => String.ofList cs.reverse

end Piece

inductive Token
  | openArray
  | closeArray
  | openObject
  | closeObject
  | colon
  | comma
  | null
  | boolean (b : Bool)
  | number (n : Numeral)
  | text (pieces : List Piece)
  deriving DecidableEq, Inhabited

/-- How far a numeral is read. The last four can end it, `sign`, `point`, `mark` and `markSign`
need a digit first. -/
inductive NumeralPart
  | sign
  | point
  | mark
  | markSign
  | zero
  | whole
  | fraction
  | exponent
  deriving DecidableEq

/-- What the reader is in the middle of. Digits and pieces are held newest first. -/
inductive Scan
  | between
  | word (rest : List Char) (token : Token)
  | text (pieces : List Piece)
  | escape (pieces : List Piece)
  | unicode (pieces : List Piece) (due value : Nat)
  | numeral (part : NumeralPart) (n : Numeral)
  deriving DecidableEq

namespace Scan

def isSpace (c : Char) : Bool := c == ' ' || c == '\n' || c == '\t' || c == '\r'

def escaped? (c : Char) : Option Char :=
  match c with
  | '"' => some '"'
  | '\\' => some '\\'
  | '/' => some '/'
  | 'b' => some '\x08'
  | 'f' => some '\x0c'
  | 'n' => some '\n'
  | 'r' => some '\r'
  | 't' => some '\t'
  | _ => none

def start (c : Char) : Option (Scan × List Token) :=
  if isSpace c then some (.between, [])
  else if c = '0' then some (.numeral .zero ⟨false, ['0'], [], none⟩, [])
  else if c.isDigit then some (.numeral .whole ⟨false, [c], [], none⟩, [])
  else match c with
  | '[' => some (.between, [.openArray])
  | ']' => some (.between, [.closeArray])
  | '\x7b' => some (.between, [.openObject])
  | '\x7d' => some (.between, [.closeObject])
  | ':' => some (.between, [.colon])
  | ',' => some (.between, [.comma])
  | '"' => some (.text [], [])
  | 'n' => some (.word ['u', 'l', 'l'] .null, [])
  | 't' => some (.word ['r', 'u', 'e'] (.boolean true), [])
  | 'f' => some (.word ['a', 'l', 's', 'e'] (.boolean false), [])
  | '-' => some (.numeral .sign ⟨true, [], [], none⟩, [])
  | _ => none

def finish (n : Numeral) : Numeral :=
  ⟨n.negative, n.whole.reverse, n.fraction.reverse, n.exponent.map fun e => (e.1, e.2.reverse)⟩

def endNumeral (n : Numeral) (c : Char) : Option (Scan × List Token) :=
  (start c).map fun (s, ts) => (s, .number (finish n) :: ts)

def addExponent (n : Numeral) (c : Char) : Numeral :=
  { n with exponent := n.exponent.map fun e => (e.1, c :: e.2) }

def isMark (c : Char) : Bool := c == 'e' || c == 'E'

def numeralStep (part : NumeralPart) (n : Numeral) (c : Char) : Option (Scan × List Token) :=
  match part with
  | .sign =>
    if c = '0' then some (.numeral .zero { n with whole := ['0'] }, [])
    else if c.isDigit then some (.numeral .whole { n with whole := [c] }, [])
    else none
  | .zero =>
    if c = '.' then some (.numeral .point n, [])
    else if isMark c then some (.numeral .mark { n with exponent := some (false, []) }, [])
    else if c.isDigit then none
    else endNumeral n c
  | .whole =>
    if c.isDigit then some (.numeral .whole { n with whole := c :: n.whole }, [])
    else if c = '.' then some (.numeral .point n, [])
    else if isMark c then some (.numeral .mark { n with exponent := some (false, []) }, [])
    else endNumeral n c
  | .point =>
    if c.isDigit then some (.numeral .fraction { n with fraction := [c] }, []) else none
  | .fraction =>
    if c.isDigit then some (.numeral .fraction { n with fraction := c :: n.fraction }, [])
    else if isMark c then some (.numeral .mark { n with exponent := some (false, []) }, [])
    else endNumeral n c
  | .mark =>
    if c.isDigit then some (.numeral .exponent (addExponent n c), [])
    else if c = '-' then some (.numeral .markSign { n with exponent := some (true, []) }, [])
    else if c = '+' then some (.numeral .markSign n, [])
    else none
  | .markSign =>
    if c.isDigit then some (.numeral .exponent (addExponent n c), []) else none
  | .exponent =>
    if c.isDigit then some (.numeral .exponent (addExponent n c), []) else endNumeral n c

def step (s : Scan) (c : Char) : Option (Scan × List Token) :=
  match s with
  | .between => start c
  | .word [] _ => none
  | .word (d :: rest) token =>
    if c ≠ d then none
    else if rest.isEmpty then some (.between, [token])
    else some (.word rest token, [])
  | .text pieces =>
    if c = '"' then some (.between, [.text pieces.reverse])
    else if c = '\\' then some (.escape pieces, [])
    else if c.toNat < 0x20 then none
    else some (.text (.char c :: pieces), [])
  | .escape pieces =>
    if c = 'u' then some (.unicode pieces 4 0, [])
    else (escaped? c).map fun d => (.text (.char d :: pieces), [])
  | .unicode pieces due value =>
    (Text.hexValue? c).map fun d =>
      let value := value * 16 + d
      if due ≤ 1 then (.text (.unit value :: pieces), [])
      else (.unicode pieces (due - 1) value, [])
  | .numeral part n => numeralStep part n c

def atEnd : Scan → Option (List Token)
  | .between => some []
  | .numeral part n =>
    if part = .zero ∨ part = .whole ∨ part = .fraction ∨ part = .exponent then
      some [.number (finish n)]
    else none
  | _ => none

/-- Reads on from a state; `out` holds the tokens read, newest first. -/
def runWith {σ : Type} (step : Scan → σ → Option (Scan × List Token)) (out : List Token) :
    Scan → List σ → Option (List Token)
  | s, [] => s.atEnd.map fun ts => (ts.reverseAux out).reverse
  | s, c :: rest =>
    match step s c with
    | none => none
    | some (s, ts) => runWith step (ts.reverseAux out) s rest

def run (out : List Token) (s : Scan) (cs : List Char) : Option (List Token) :=
  runWith step out s cs

theorem run_cons (out : List Token) (s : Scan) (c : Char) (rest : List Char) :
    run out s (c :: rest) =
      match s.step c with
      | none => none
      | some (s, ts) => run (ts.reverseAux out) s rest := rfl

/-- One symbol of some bytes. What is no character may only stand within a string. -/
def stepSymbol (s : Scan) : Option Char → Option (Scan × List Token)
  | some c => s.step c
  | none =>
    match s with
    | .text pieces => some (.text (.stray :: pieces), [])
    | _ => none

theorem runWith_stepSymbol (out : List Token) (s : Scan) (cs : List Char) :
    runWith stepSymbol out s (cs.map some) = run out s cs := by
  induction cs generalizing out s with
  | nil => rfl
  | cons c cs ih =>
    rw [List.map_cons, runWith, run_cons]
    simp only [stepSymbol]
    split
    · rfl
    · exact ih _ _

end Scan

def tokens (cs : List Char) : Option (List Token) := Scan.run [] .between cs

def byteTokens (bytes : List UInt8) : Option (List Token) :=
  Scan.runWith Scan.stepSymbol [] .between (Text.Utf8.symbols bytes)

theorem byteTokens_encode (text : String) :
    byteTokens (Text.Utf8.encode text) = tokens text.toList := by
  rw [byteTokens, Text.Utf8.symbols_encode, Scan.runWith_stepSymbol, tokens]

end OpsConsole.Json
