import OpsConsole.Text.Blank
import OpsConsole.Url.Segments

/-!
# Reading URLs

Controls and blanks around a URL, and tabs and line breaks anywhere in it, are passed over. A
special scheme is followed by an authority behind any number of slashes, which may be backslashes;
a general one only behind two; a file has a host behind two, unless a drive letter stands there.
A path that would be read as an authority is set off from the scheme.
-/

namespace OpsConsole.Url

open Text

def stripped (cs : List Char) : List Char :=
  dropTail (·.toNat ≤ 0x20) (cs.dropWhile (·.toNat ≤ 0x20))

def withoutBreaks (cs : List Char) : List Char := cs.filter (!isBreak ·)

def schemeRest? : List Char → Option (List Char × List Char)
  | [] => none
  | c :: r =>
    if c = ':' then some ([], r)
    else if isBreak c then schemeRest? r
    else if c.isAlphanum || c == '+' || c == '-' || c == '.' then
      (schemeRest? r).map fun (s, rest) => (c.toLower :: s, rest)
    else none

def scheme? (cs : List Char) : Option (List Char × List Char) :=
  if cs.head?.any Char.isAlpha then schemeRest? cs else none

structure Parts where
  middle : List Char
  query : Option (List Char)
  fragment : Option (List Char)

def Parts.ofChars (cs : List Char) : Parts :=
  let (rest, fragment) := cut (· == '#') cs
  let (middle, query) := cut (· == '?') rest
  ⟨middle, query, fragment⟩

/-- A host and what follows the colon after it, if there is one outside brackets. -/
def cutPort (inBrackets : Bool) : List Char → List Char × Option (List Char)
  | [] => ([], none)
  | c :: r =>
    if c = ':' ∧ !inBrackets then ([], some r)
    else
      let (host, port) := cutPort (c == '[' || (inBrackets && c != ']')) r
      (c :: host, port)

/-- The port, unless it goes without saying, and the path that begins where its digits end. -/
def port (scheme : String) (cs : List Char) : Except UrlError (Option Nat × List Char) :=
  let digits := cs.takeWhile Char.isDigit
  let rest := cs.dropWhile Char.isDigit
  let n := digits.foldl (fun n c => 10 * n + (c.toNat - '0'.toNat)) 0
  if 65535 < n ∨ (rest ≠ [] ∧ rest.head? ≠ some '\\') then .error .badPort
  else if digits = [] ∨ usualPort? scheme = some n then .ok (none, rest)
  else .ok (some n, rest)

def userinfo (atEnd : Bool) (cs : List Char) :
    Except UrlError (String × String × List Char) :=
  match cutLast? (· == '@') cs with
  | none => .ok ("", "", cs)
  | some ([], []) => if atEnd then .ok ("", "", []) else .error .emptyHost
  | some (info, rest) =>
    let (name, password) := cut (· == ':') info
    let encoded (cs : List Char) : String := String.ofList (percentEncode inUserinfo cs)
    .ok (encoded name, encoded (password.getD []), rest)

def readAuthority (scheme : String) (atEnd : Bool) (cs : List Char) :
    Except UrlError (Authority × List Char) := do
  let special := (schemeKind scheme).isSpecial
  let (username, password, rest) ← userinfo atEnd cs
  let (host, rest) := cutPort false rest
  if host = [] ∧ (special ∨ rest.isSome ∨ username ≠ "" ∨ password ≠ "") then .error .emptyHost
  else
    let host ← if special then Host.ofDomain host else Host.ofOther host
    match rest with
    | none => .ok (⟨username, password, host, none⟩, [])
    | some rest =>
      let (port, rest) ← port scheme rest
      .ok (⟨username, password, host, port⟩, rest)

def isSlash (special : Bool) (c : Char) : Bool := c == '/' || (special && c == '\\')

/-- The path of a text whose first slash, if there is one, is the root. -/
def rootedPath (special : Bool) (cs : List Char) : UrlPath :=
  match cs with
  | [] => if special then .rooted [""] else .rooted []
  | c :: r => pathOf (fields (isSlash special) (if isSlash special c then r else c :: r))

def withAuthority (scheme : String) (bare : Bool) (cs : List Char) :
    Except UrlError (Option Authority × UrlPath) := do
  let special := (schemeKind scheme).isSpecial
  let place := cs.takeWhile (!isSlash special ·)
  let rest := cs.dropWhile (!isSlash special ·)
  let (a, begun) ← readAuthority scheme (bare && rest.isEmpty) place
  .ok (some a, rootedPath special (begun ++ rest))

def noHost : Authority := ⟨"", "", .name "", none⟩

def localFile (segments : List (List Char)) : Option Authority × UrlPath :=
  (some noHost, (FilePath.ofSegments segments).path)

/-- A file behind two slashes. A drive letter is no host, and this host is none either. -/
def hostedFile (cs : List Char) : Except UrlError (Option Authority × UrlPath) :=
  let place := withoutBreaks (cs.takeWhile (!isSlash true ·))
  let rest := cs.dropWhile (!isSlash true ·)
  if isDrive place then .ok (localFile (fields (isSlash true) cs))
  else if place = [] then .ok (localFile (fields (isSlash true) rest))
  else do
    let host ← Host.ofDomain place
    if host = .name "localhost" then .ok (localFile (fields (isSlash true) rest))
    else
      let p := FilePath.ofSegments (fields (isSlash true) rest.tail)
      .ok (some (if p.ofDrive then noHost else { noHost with host }), p.path)

def ofFile (cs : List Char) : Except UrlError (Option Authority × UrlPath) :=
  match cs.dropWhile isBreak with
  | [] => .ok (localFile [[]])
  | c :: r =>
    if !isSlash true c then .ok (localFile (fields (isSlash true) cs))
    else
      match r.dropWhile isBreak with
      | d :: rest =>
        if isSlash true d then hostedFile rest else .ok (localFile (fields (isSlash true) r))
      | [] => .ok (localFile [[]])

def place (scheme : String) (p : Parts) : Except UrlError (Option Authority × UrlPath) :=
  let bare := p.query.isNone && p.fragment.isNone
  let middle := withoutBreaks p.middle
  match schemeKind scheme with
  | .special => withAuthority scheme bare (middle.dropWhile (isSlash true))
  | .file => ofFile p.middle
  | .general =>
    match middle with
    | '/' :: '/' :: rest => withAuthority scheme bare rest
    | '/' :: rest => .ok (none, pathOf (fields (isSlash false) rest))
    | rest => .ok (none, .rootless (String.ofList (percentEncode isControl rest)))

/-- Whether a path would be read as an authority if it followed the scheme. -/
def looksPlaced (authority : Option Authority) (path : UrlPath) : Bool :=
  match authority, path with
  | none, .rooted ("" :: _ :: _) => true
  | _, _ => false

def parse (text : String) : Except UrlError Url :=
  match scheme? (stripped text.toList) with
  | none => .error .noScheme
  | some (scheme, rest) => do
    let scheme := String.ofList scheme
    let p := Parts.ofChars rest
    let (authority, path) ← place scheme p
    let encoded (set : Char → Bool) (cs : List Char) : String :=
      String.ofList (percentEncode set (withoutBreaks cs))
    .ok ⟨scheme, authority, path,
      p.query.map (encoded (inQuery (schemeKind scheme).isSpecial)),
      p.fragment.map (encoded inFragment), looksPlaced authority path⟩

end OpsConsole.Url
