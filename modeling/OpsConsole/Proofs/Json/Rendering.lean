import OpsConsole.Proofs.Json.Layout
import OpsConsole.Proofs.Json.Numbers

/-!
# Written values

`Value.chars` is what the printer writes for a value, in reading order. It is a layout of
`Value.tokens` without any white space, and these are the tokens of the document `Value.document`,
which has the members in the order written. So this document is read from it, with no limit on the
nesting.
-/

namespace OpsConsole.Json

namespace Value

mutual
def chars : Value → List Char
  | .null => ['n', 'u', 'l', 'l']
  | .boolean true => ['t', 'r', 'u', 'e']
  | .boolean false => ['f', 'a', 'l', 's', 'e']
  | .number n => n.chars
  | .text s => textChars s
  | .array [] => ['[', ']']
  | .array (v :: r) => '[' :: (chars v ++ itemsChars r)
  | .object [] => ['\x7b', '\x7d']
  | .object ((k, v) :: r) => '\x7b' :: (textChars k ++ ':' :: (chars v ++ membersChars r))
/-- The items after the first, and the bracket. -/
def itemsChars : List Value → List Char
  | [] => [']']
  | v :: r => ',' :: (chars v ++ itemsChars r)
def membersChars : List (String × Value) → List Char
  | [] => ['\x7d']
  | (k, v) :: r => ',' :: (textChars k ++ ':' :: (chars v ++ membersChars r))
end

mutual
theorem write_eq (out : List Char) : (v : Value) → write out v = v.chars.reverse ++ out
  | .null => rfl
  | .boolean true => rfl
  | .boolean false => rfl
  | .number n => by simp [write, chars, push]
  | .text s => by rw [write, chars, writeText_eq]
  | .array [] => rfl
  | .array (v :: r) => by
    rw [write, chars, writeItems_eq, write_eq _ v]
    simp
  | .object [] => rfl
  | .object ((k, v) :: r) => by
    rw [write, chars, writeMembers_eq, write_eq _ v, writeText_eq]
    simp
theorem writeItems_eq (out : List Char) :
    (r : List Value) → ']' :: writeItems out r = (itemsChars r).reverse ++ out
  | [] => rfl
  | v :: r => by
    rw [writeItems, itemsChars, writeItems_eq _ r, write_eq _ v]
    simp
theorem writeMembers_eq (out : List Char) :
    (r : List (String × Value)) → '\x7d' :: writeMembers out r = (membersChars r).reverse ++ out
  | [] => rfl
  | (k, v) :: r => by
    rw [writeMembers, membersChars, writeMembers_eq _ r, write_eq _ v, writeText_eq]
    simp
end

theorem toList_render (v : Value) : v.render.toList = v.chars := by
  simp [render, write_eq]

mutual
def tokens : Value → List Token
  | .null => [.null]
  | .boolean b => [.boolean b]
  | .number n => [.number n.numeral]
  | .text s => [.text (writtenPieces s)]
  | .array [] => [.openArray, .closeArray]
  | .array (v :: r) => .openArray :: (tokens v ++ itemsTokens r)
  | .object [] => [.openObject, .closeObject]
  | .object ((k, v) :: r) =>
    .openObject :: .text (writtenPieces k) :: .colon :: (tokens v ++ membersTokens r)
def itemsTokens : List Value → List Token
  | [] => [.closeArray]
  | v :: r => .comma :: (tokens v ++ itemsTokens r)
def membersTokens : List (String × Value) → List Token
  | [] => [.closeObject]
  | (k, v) :: r =>
    .comma :: .text (writtenPieces k) :: .colon :: (tokens v ++ membersTokens r)
end

mutual
theorem laidOut_chars : (v : Value) → LaidOut v.tokens v.chars
  | .null => .single .wordNull
  | .boolean true => .single .wordTrue
  | .boolean false => .single .wordFalse
  | .number n => by
    have hspelled := n.numeral.spelled_chars
    rw [chars_numeral] at hspelled
    exact .single (.number (wellFormed_numeral n) hspelled)
  | .text s => .single (.text (Piece.quoted_textChars s))
  | .array [] => .spell .openArray (.single .closeArray)
  | .array (v :: r) => .spell .openArray ((laidOut_chars v).append (laidOut_itemsChars r))
  | .object [] => .spell .openObject (.single .closeObject)
  | .object ((k, v) :: r) => by
    have hrest := (laidOut_chars v).append (laidOut_membersChars r)
    exact .spell .openObject (.spell (.text (Piece.quoted_textChars k)) (.spell .colon hrest))
theorem laidOut_itemsChars : (r : List Value) → LaidOut (itemsTokens r) (itemsChars r)
  | [] => .single .closeArray
  | v :: r => .spell .comma ((laidOut_chars v).append (laidOut_itemsChars r))
theorem laidOut_membersChars :
    (r : List (String × Value)) → LaidOut (membersTokens r) (membersChars r)
  | [] => .single .closeObject
  | (k, v) :: r => by
    have hrest := (laidOut_chars v).append (laidOut_membersChars r)
    exact .spell .comma (.spell (.text (Piece.quoted_textChars k)) (.spell .colon hrest))
end

mutual
/-- The document that a value is written as. -/
def document : Value → Document
  | .null => .null
  | .boolean b => .boolean b
  | .number n => .number n.numeral
  | .text s => .text (writtenPieces s)
  | .array items => .array (itemDocuments items)
  | .object members => .object (memberDocuments members)
def itemDocuments : List Value → List Document
  | [] => []
  | v :: r => document v :: itemDocuments r
def memberDocuments : List (String × Value) → List (List Piece × Document)
  | [] => []
  | (k, v) :: r => (writtenPieces k, document v) :: memberDocuments r
end

mutual
theorem tokens_document : (v : Value) → v.document.tokens = v.tokens
  | .null => rfl
  | .boolean _ => rfl
  | .number _ => rfl
  | .text _ => rfl
  | .array [] => rfl
  | .array (v :: r) => by
    rw [document, itemDocuments, Document.tokens, tokens_document v, itemsTokens_document r, tokens]
  | .object [] => rfl
  | .object ((k, v) :: r) => by
    rw [document, memberDocuments, Document.tokens, tokens_document v, membersTokens_document r,
      tokens]
theorem itemsTokens_document :
    (r : List Value) → Document.itemsTokens (itemDocuments r) = itemsTokens r
  | [] => rfl
  | v :: r => by
    rw [itemDocuments, Document.itemsTokens, tokens_document v, itemsTokens_document r, itemsTokens]
theorem membersTokens_document :
    (r : List (String × Value)) →
      Document.membersTokens (memberDocuments r) = membersTokens r
  | [] => rfl
  | (k, v) :: r => by
    rw [memberDocuments, Document.membersTokens, tokens_document v, membersTokens_document r,
      membersTokens]
end

end Value

/-- What the printer writes for a value is a text, and its document is that of the value. -/
theorem Document.parse_chars (v : Value) : Document.parse v.chars = some v.document := by
  have hlayout := v.laidOut_chars
  rw [← v.tokens_document] at hlayout
  exact Document.parse_of_laidOut hlayout

end OpsConsole.Json
