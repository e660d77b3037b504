import OpsConsole.Json.Value

/-!
# Writing JSON

The compact form, without white space. A text escapes the quote, the backslash and the control
characters, and nothing else. The functions add to what is already written, newest character first.
-/

namespace OpsConsole.Json

def hexDigit (n : Nat) : Char := n.digitChar

def escape (c : Char) : List Char :=
  match c with
  | '"' => ['\\', '"']
  | '\\' => ['\\', '\\']
  | '\n' => ['\\', 'n']
  | '\r' => ['\\', 'r']
  | '\t' => ['\\', 't']
  | '\x08' => ['\\', 'b']
  | '\x0c' => ['\\', 'f']
  | _ =>
    if c.toNat < 0x20 then
      ['\\', 'u', '0', '0', hexDigit (c.toNat / 16), hexDigit (c.toNat % 16)]
    else [c]

def push (out cs : List Char) : List Char := cs.reverseAux out

def writeText (out : List Char) (s : String) : List Char :=
  '"' :: s.toList.foldl (fun out c => push out (escape c)) ('"' :: out)

namespace Value

mutual
def write (out : List Char) : Value → List Char
  | .null => push out ['n', 'u', 'l', 'l']
  | .boolean true => push out ['t', 'r', 'u', 'e']
  | .boolean false => push out ['f', 'a', 'l', 's', 'e']
  | .number n => push out n.chars
  | .text s => writeText out s
  | .array [] => push out ['[', ']']
  | .array (v :: r) => ']' :: writeItems (write ('[' :: out) v) r
  | .object [] => push out ['\x7b', '\x7d']
  | .object ((k, v) :: r) =>
    '\x7d' :: writeMembers (write (':' :: writeText ('\x7b' :: out) k) v) r
def writeItems (out : List Char) : List Value → List Char
  | [] => out
  | v :: r => writeItems (write (',' :: out) v) r
def writeMembers (out : List Char) : List (String × Value) → List Char
  | [] => out
  | (k, v) :: r => writeMembers (write (':' :: writeText (',' :: out) k) v) r
end

def render (v : Value) : String := String.ofList (write [] v).reverse

end Value

/-- An object written with its members in the order given. -/
def renderRecord (members : List (String × Value)) : String :=
  Value.render (.object members)

end OpsConsole.Json
