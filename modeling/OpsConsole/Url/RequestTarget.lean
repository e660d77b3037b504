import OpsConsole.Text.Fields
import OpsConsole.Url.Basic

/-!
# Request targets

The request line takes a narrower form of address than a URL: without a fragment, with an authority
that is plain ASCII, and of bounded length. An address without two slashes after the scheme is taken
for a bare authority.
-/

namespace OpsConsole

inductive TargetError
  | empty
  | character
  | authority
  | format
  | tooLong
  | schemeTooLong
  deriving DecidableEq, Inhabited

namespace TargetError

def message : TargetError → String
  | empty => "empty string"
  | character => "invalid uri character"
  | authority => "invalid authority"
  | format => "invalid format"
  | tooLong => "uri too long"
  | schemeTooLong => "scheme too long"

end TargetError

namespace Url

open Text

/-- The characters of an authority, of which a percent sign may stand in the user's part only. -/
def isAuthorityChar (c : Char) : Bool :=
  c.isAlphanum ||
    ['!', '$', '&', '\'', '(', ')', '*', '+', ',', '-', '.', ':', ';', '=', '@', '[', ']', '_', '~',
      '%'].contains c

structure AuthorityScan where
  colons : Nat := 0
  opened : Bool := false
  ended : Bool := false
  percent : Bool := false
  lastAt : Bool := false

/-- One character more of an authority. What was counted before an `@` or a closing bracket belongs
to the user's part or to the address in brackets. -/
def AuthorityScan.see (s : AuthorityScan) (c : Char) : Except TargetError AuthorityScan :=
  let s := { s with lastAt := false }
  if !isAuthorityChar c then .error .character
  else
    match c with
    | ':' => if 8 ≤ s.colons then .error .authority else .ok { s with colons := s.colons + 1 }
    | '[' => if s.percent ∨ s.opened then .error .authority else .ok { s with opened := true }
    | ']' =>
      if !s.opened ∨ s.ended then .error .authority
      else .ok { s with ended := true, colons := 0, percent := false }
    | '@' => .ok { s with colons := 0, percent := false, lastAt := true }
    | '%' => .ok { s with percent := true }
    | _ => .ok s

def AuthorityScan.passes (s : AuthorityScan) : Bool :=
  s.opened == s.ended && s.colons ≤ 1 && !s.lastAt && !s.percent

/-- Splits off an authority, which ends at a slash, a question mark or a number sign. -/
def cutAuthority (cs : List Char) : Except TargetError (List Char × List Char) := do
  let isEnd (c : Char) : Bool := c == '/' || c == '?' || c == '#'
  let place := cs.takeWhile (!isEnd ·)
  let scan ← place.foldlM AuthorityScan.see {}
  if scan.passes then .ok (place, cs.dropWhile (!isEnd ·)) else .error .authority

def longestTarget : Nat := 65534

def longestScheme : Nat := 64

def requestTarget (u : Url) : Except TargetError (List Char × List Char) := do
  let cs := u.chars
  if longestTarget < cs.length then .error .tooLong
  else
    let rest := cs.drop (u.scheme.toList.length + 1)
    match rest with
    | '/' :: '/' :: rest =>
      if longestScheme < u.scheme.toList.length then .error .schemeTooLong
      else if rest = [] then .error .empty
      else
        let (place, rest) ← cutAuthority rest
        if place = [] then .error .format
        else
          let path := (cut (· == '#') rest).1
          let path := if path.head? = some '/' then path else '/' :: path
          .ok (place, u.scheme.toList ++ ':' :: '/' :: '/' :: place ++ path)
    | _ =>
      let (place, rest) ← cutAuthority cs
      if rest = [] then .ok (place, place) else .error .format

def isRequestable (u : Url) : Bool :=
  match u.requestTarget with
  | .ok _ => true
  | .error _ => false

end Url

end OpsConsole
