import OpsConsole.Url.Host

/-!
# URLs

A URL has a scheme and a path, and may have an authority, a query and a fragment. Some schemes are
special: theirs is always an authority, a path that is never empty, and most have a usual port,
which is left out. The parts are held as they are written, with percent encoding.
-/

namespace OpsConsole

structure Authority where
  username : String
  password : String
  host : Host
  port : Option Nat
  deriving DecidableEq, Inhabited

inductive UrlPath
  /-- A text that does not begin with a slash. -/
  | rootless (text : String)
  | rooted (segments : List String)
  deriving DecidableEq, Inhabited

structure Url where
  scheme : String
  authority : Option Authority
  path : UrlPath
  query : Option String
  fragment : Option String
  /-- Whether a slash and a dot set the path off from the scheme. -/
  setOff : Bool := false
  deriving DecidableEq, Inhabited

namespace Url

inductive SchemeKind
  | special
  | file
  | general
  deriving DecidableEq, Inhabited

def schemeKind (scheme : String) : SchemeKind :=
  if ["http", "https", "ws", "wss", "ftp"].contains scheme then .special
  else if scheme = "file" then .file
  else .general

def SchemeKind.isSpecial : SchemeKind → Bool
  | special | file => true
  | general => false

/-- The port that goes without saying. -/
def usualPort? (scheme : String) : Option Nat :=
  match scheme with
  | "http" | "ws" => some 80
  | "https" | "wss" => some 443
  | "ftp" => some 21
  | _ => none

def isSpecial (u : Url) : Bool := (schemeKind u.scheme).isSpecial

end Url

namespace Authority

def userinfo (a : Authority) : List Char :=
  if a.username = "" ∧ a.password = "" then []
  else
    a.username.toList ++ (if a.password = "" then [] else ':' :: a.password.toList) ++ ['@']

def portChars (a : Authority) : List Char :=
  match a.port with
  | some n => ':' :: Nat.toDigits 10 n
  | none => []

def chars (a : Authority) : List Char :=
  a.userinfo ++ a.host.chars ++ a.portChars

end Authority

namespace UrlPath

def chars : UrlPath → List Char
  | rootless s => s.toList
  | rooted segments => segments.flatMap fun s => '/' :: s.toList

end UrlPath

namespace Url

def origin (u : Url) : List Char :=
  u.scheme.toList ++ ':' :: match u.authority with
    | some a => '/' :: '/' :: a.chars
    | none => []

def marked (mark : Char) : Option String → List Char
  | some s => mark :: s.toList
  | none => []

def chars (u : Url) : List Char :=
  u.origin ++ (if u.setOff then ['/', '.'] else []) ++ u.path.chars ++ marked '?' u.query ++
    marked '#' u.fragment

def render (u : Url) : String := String.ofList u.chars

def anonymous (u : Url) : Url :=
  { u with authority := u.authority.map fun a => { a with username := "", password := "" } }

end Url

end OpsConsole
