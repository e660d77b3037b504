import OpsConsole.Text.Canonical
import OpsConsole.Text.Utf8
import OpsConsole.Url.Direction
import OpsConsole.Url.Joining
import OpsConsole.Url.PlainForm
import OpsConsole.Url.Punycode

/-!
# Domains

A domain is brought to lower-case ASCII: its characters are mapped to their plain forms, the
result to its canonical form, and a label that still holds others is written in the ASCII form of
international labels. A label that is in that form already has to be the form of one that is plain
and canonical. Some characters may stand in no domain, some not at the front of a label, and some
only beside certain others.
-/

namespace OpsConsole.Url

open Text

def isDenied (c : Char) : Bool :=
  c.toNat ≤ 0x20 || c.toNat == 0x7F ||
    ['%', '#', '/', ':', '<', '>', '?', '@', '[', '\\', ']', '^', '|'].contains c

/-- The plain characters that a text stands for in a domain. -/
def plainText (cs : List Char) : List Char := canonical (cs.flatMap plainForm)

def asciiMark : List Char := ['x', 'n', '-', '-']

/-- The longest ASCII form, less its mark, that is read. -/
def longestForm : Nat := 2000

/-- The longest label that is brought to ASCII. -/
def longestInternational : Nat := 1000

def isAscii (label : List Char) : Bool := label.all (·.toNat < 0x80)

def asciiForm (label : List Char) : List Char :=
  if isAscii label then label else asciiMark ++ Punycode.encode label

def label? (text : List Char) : Option (List Char) :=
  if !asciiMark.isPrefixOf text then some text
  else
    let form := text.drop asciiMark.length
    if longestForm < form.length then none
    else
      match Punycode.decode? form with
      | none => none
      | some label =>
        if asciiForm label = text ∧ plainText label = label ∧ !label.any isBarred then some label
        else none

def isLabel (label : List Char) : Bool :=
  !label.head?.any isMark && joinersFit [] label &&
    (isAscii label || label.length ≤ longestInternational)

def domain? (bytes : List UInt8) : Option (List Char) := do
  let text ← Utf8.strict? bytes
  let plain := plainText text.toList
  if plain.any isDenied ∨ plain.any isBarred then none
  else
    let labels ← (fields (· == '.') plain).mapM label?
    if labels.all isLabel ∧ directionsAgree labels then
      some ((labels.map asciiForm).intersperse ['.']).flatten
    else none

end OpsConsole.Url
