import OpsConsole.Files.Path
import OpsConsole.Text.Utf8

/-!
# Files

A tree of files and directories, as far as keeping one small file needs it. Each step succeeds or
fails with a cause; a step that fails changes nothing, except that some of the directories it was
to make may have been made. Renaming replaces the target in one step.
-/

namespace OpsConsole

inductive FileError
  | notFound
  | busy
  | alreadyThere
  | notDirectory
  | isDirectory
  | nameTooLong
  | badName
  deriving DecidableEq, Inhabited

namespace FileError

def message : FileError → String
  | notFound => "No such file or directory (os error 2)"
  | busy => "Device or resource busy (os error 16)"
  | alreadyThere => "File exists (os error 17)"
  | notDirectory => "Not a directory (os error 20)"
  | isDirectory => "Is a directory (os error 21)"
  | nameTooLong => "File name too long (os error 36)"
  | badName => "file name contained an unexpected NUL byte"

end FileError

inductive Entry
  | directory
  /-- A private file is readable by its owner alone. -/
  | file (bytes : List UInt8) (ownerOnly : Bool)
  deriving DecidableEq, Inhabited

/-- The names that lead from the root to an entry. -/
abbrev Location : Type := List String

structure Files where
  entries : List (Location × Entry)
  /-- Where paths that do not begin with a slash begin. -/
  home : Location
  deriving DecidableEq, Inhabited

namespace Files

def empty : Files := ⟨[(["work"], .directory)], ["work"]⟩

def entryAt? (f : Files) (loc : Location) : Option Entry :=
  if loc = [] then some .directory else (f.entries.find? (·.1 = loc)).map (·.2)

def put (f : Files) (loc : Location) (e : Entry) : Files :=
  { f with entries := (loc, e) :: f.entries.filter (·.1 ≠ loc) }

def erase (f : Files) (loc : Location) : Files :=
  { f with entries := f.entries.filter (·.1 ≠ loc) }

def longestName : Nat := 255

def longestPath : Nat := 4095

def enter (f : Files) (loc : Location) (name : String) : Except FileError Location :=
  match f.entryAt? loc with
  | none => .error .notFound
  | some (.file ..) => .error .notDirectory
  | some .directory =>
    if longestName < Text.Utf8.size name then .error .nameTooLong
    else if name = "." then .ok loc
    else if name = ".." then .ok loc.dropLast
    else .ok (loc ++ [name])

def walk (f : Files) (loc : Location) : List String → Except FileError Location
  | [] => .ok loc
  | n :: rest => do
    let loc ← f.enter loc n
    f.walk loc rest

def checkPath (path : String) : Except FileError Unit :=
  if path.toList.contains '\x00' then .error .badName
  else if path = "" then .error .notFound
  else if longestPath < Text.Utf8.size path then .error .nameTooLong
  else .ok ()

def origin (f : Files) (path : String) : Location := if isAbsolute path then [] else f.home

/-- Where a path leads; there need not be an entry. -/
def locate (f : Files) (path : String) : Except FileError Location := do
  checkPath path
  f.walk (f.origin path) (names path)

/-- Whether a path ends in a name, not in dots. -/
def isNamed (path : String) : Bool :=
  match (names path).getLast? with
  | none | some "." | some ".." => false
  | some _ => true

def read (f : Files) (path : String) : Except FileError (List UInt8) := do
  let loc ← f.locate path
  match f.entryAt? loc with
  | none => .error .notFound
  | some .directory => .error .isDirectory
  | some (.file bytes _) => if endsInSlash path then .error .notDirectory else .ok bytes

/-- Replaces the contents of a file, or makes one that is not private. -/
def write (f : Files) (path : String) (bytes : List UInt8) : Except FileError Files := do
  let loc ← f.locate path
  if !isNamed path || endsInSlash path then .error .isDirectory
  else
    match f.entryAt? loc with
    | some .directory => .error .isDirectory
    | some (.file _ ownerOnly) => .ok (f.put loc (.file bytes ownerOnly))
    | none => .ok (f.put loc (.file bytes false))

def setPrivate (f : Files) (path : String) (ownerOnly : Bool) : Except FileError Files := do
  let loc ← f.locate path
  match f.entryAt? loc with
  | none => .error .notFound
  | some .directory => .ok f
  | some (.file bytes _) =>
    if endsInSlash path then .error .notDirectory else .ok (f.put loc (.file bytes ownerOnly))

def rename (f : Files) (source target : String) : Except FileError Files := do
  let old ← f.locate source
  let new ← f.locate target
  if !isNamed source || !isNamed target then .error .busy
  else
    match f.entryAt? old with
    | none => .error .notFound
    | some .directory => .error .isDirectory
    | some (.file bytes ownerOnly) =>
      if endsInSlash source || endsInSlash target then .error .notDirectory
      else if f.entryAt? new = some .directory then .error .isDirectory
      else .ok ((f.erase old).put new (.file bytes ownerOnly))

def remove (f : Files) (path : String) : Except FileError Files := do
  let loc ← f.locate path
  if !isNamed path then .error .isDirectory
  else
    match f.entryAt? loc with
    | none => .error .notFound
    | some .directory => .error .isDirectory
    | some (.file ..) => if endsInSlash path then .error .notDirectory else .ok (f.erase loc)

def isDirectory (f : Files) (path : String) : Bool :=
  match f.locate path with
  | .ok loc => f.entryAt? loc == some .directory
  | .error _ => false

/-- Makes one directory, in one that is there. What ends in dots is there if it leads anywhere. -/
def makeDirectory (f : Files) (path : String) : Except FileError Files := do
  let loc ← f.locate path
  if !isNamed path ∨ (f.entryAt? loc).isSome then .error .alreadyThere
  else .ok (f.put loc .directory)

def settledDirectory (f : Files) (path : String) : Except FileError Files → Files × Option FileError
  | .ok f' => (f', none)
  | .error e => (f, if e = .alreadyThere ∧ f.isDirectory path then none else some e)

/-- Makes the first of the paths a directory, and those after it first if it needs them. -/
def makeWay (f : Files) : List String → Files × Option FileError
  | [] => (f, none)
  | path :: above =>
    match f.makeDirectory path with
    | .error .notFound =>
      match f.makeWay above with
      | (f, some e) => (f, some e)
      | (f, none) => f.settledDirectory path (f.makeDirectory path)
    | made => f.settledDirectory path made

def makeDirectories (f : Files) (path : String) : Files × Option FileError :=
  if parts path = [] then (f, none) else f.makeWay (path :: directories path)

/-- The order of a listing: a directory comes before what it holds. -/
def comesBefore : Location → Location → Bool
  | [], _ => true
  | _ :: _, [] => false
  | a :: r, b :: t => a < b || (a == b && comesBefore r t)

def listing (f : Files) : List (Location × Entry) :=
  ((f.entries.filter fun e => f.home.isPrefixOf e.1 && e.1 != f.home).map fun e =>
    (e.1.drop f.home.length, e.2)).mergeSort fun a b => comesBefore a.1 b.1

end Files

inductive FileStep
  | makeDirectories (path : String)
  | write (path : String) (bytes : List UInt8)
  | restrict (path : String)
  | rename (source target : String)
  | remove (path : String)
  deriving DecidableEq, Inhabited

namespace Files

def settled (f : Files) : Except FileError Files → Files × Option FileError
  | .ok f' => (f', none)
  | .error e => (f, some e)

def perform (f : Files) : FileStep → Files × Option FileError
  | .makeDirectories path => f.makeDirectories path
  | .write path bytes => f.settled (f.write path bytes)
  | .restrict path => f.settled (f.setPrivate path true)
  | .rename source target => f.settled (f.rename source target)
  | .remove path => f.settled (f.remove path)

/-- Failures from outside, by the step that they befall. -/
abbrev Faults : Type := FileStep → Option FileError

def noFaults : Faults := fun _ => none

/-- Performs steps until one fails. -/
def performAll (faults : Faults) (f : Files) : List FileStep → Files × Option FileError
  | [] => (f, none)
  | s :: rest =>
    match faults s with
    | some e => (f, some e)
    | none =>
      match f.perform s with
      | (f, some e) => (f, some e)
      | (f, none) => f.performAll faults rest

end Files

end OpsConsole
