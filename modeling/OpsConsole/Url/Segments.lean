import OpsConsole.Url.Basic
import OpsConsole.Url.Percent

/-!
# Segments of a path

A path is built segment by segment. A segment of one dot adds nothing and one of two dots takes
the segment before it away; where they end a path, an empty segment stands in their place. A dot
may be percent-encoded. A drive letter is never taken away.

The path of a file may begin with a drive letter, which has a colon in the end and stands for the
host as well. Empty segments in front of a path are left out, but a drive letter behind them does
not begin the path. A break right behind the colon of a drive letter that more follows separates the
two.
-/

namespace OpsConsole.Url

def dots? : List Char → Option Nat
  | [] => some 0
  | '.' :: r => (dots? r).map (· + 1)
  | '%' :: '2' :: 'e' :: r | '%' :: '2' :: 'E' :: r => (dots? r).map (· + 1)
  | _ => none

def isDrive : List Char → Bool
  | [c, d] => c.isAlpha && (d == ':' || d == '|')
  | _ => false

/-- The segments before the last one, newest first. -/
def climb : List (List Char) → List (List Char)
  | [] => []
  | s :: rest => if isDrive s then s :: rest else rest

/-- Adds a segment to those before it, newest first. -/
def addSegment (last : Bool) (stack : List (List Char)) (s : List Char) : List (List Char) :=
  let ended (stack : List (List Char)) := if last then [] :: stack else stack
  match dots? s with
  | some 1 => ended stack
  | some 2 => ended (climb stack)
  | _ => s :: stack

def addSegments (stack : List (List Char)) : List (List Char) → List (List Char)
  | [] => stack
  | [s] => addSegment true stack s
  | s :: rest => addSegments (addSegment false stack s) rest

def pathOf (segments : List (List Char)) : UrlPath :=
  let stack := addSegments [] (segments.map (percentEncode inPath))
  .rooted (stack.reverse.map String.ofList)

/-- A tab or a line break, which a URL may hold anywhere and which means nothing. -/
def isBreak (c : Char) : Bool := c == '\t' || c == '\n' || c == '\r'

/-- Adds one segment at the end of a path, so that it stays one segment. A lone empty segment
gives way to it, and a segment of one or two dots is left out. -/
def pushSegment (special : Bool) (segments : List String) (s : String) : List String :=
  if s = "." ∨ s = ".." then segments
  else
    let before := if segments = [""] then [] else segments
    let s := percentEncode (inSegment special) (s.toList.filter (!isBreak ·))
    (addSegment true (before.reverse.map String.toList) s).reverse.map String.ofList

structure FilePath where
  stack : List (List Char)
  /-- Whether a drive letter took the place of the host. -/
  ofDrive : Bool
  deriving DecidableEq, Inhabited

/-- A drive letter with its colon, and what a break separates from it. -/
def brokenDrive? (cs : List Char) : Option (List Char × List Char) :=
  match cs.dropWhile isBreak with
  | c :: r =>
    match r.dropWhile isBreak with
    | ':' :: b :: rest =>
      let rest := rest.filter (!isBreak ·)
      if c.isAlpha ∧ isBreak b ∧ rest ≠ [] then some ([c, ':'], rest) else none
    | _ => none
  | [] => none

namespace FilePath

def add (last : Bool) (p : FilePath) (cs : List Char) : FilePath :=
  let s := percentEncode inPath (cs.filter (!isBreak ·))
  match p.stack, brokenDrive? cs, s with
  | [], some (drive, rest), _ => { p with stack := [percentEncode inPath rest, drive] }
  | [], none, [c, d] =>
    if isDrive [c, d] then ⟨[[c, ':']], true⟩ else { p with stack := addSegment last [] s }
  | stack, _, s => { p with stack := addSegment last stack s }

def addAll (p : FilePath) : List (List Char) → FilePath
  | [] => p
  | [s] => p.add true s
  | s :: rest => (p.add false s).addAll rest

def withoutEmpty : List String → List String
  | "" :: s :: r => withoutEmpty (s :: r)
  | segments => segments

def ofSegments (segments : List (List Char)) : FilePath := addAll ⟨[], false⟩ segments

def path (p : FilePath) : UrlPath := .rooted (withoutEmpty (p.stack.reverse.map String.ofList))

end FilePath

end OpsConsole.Url
