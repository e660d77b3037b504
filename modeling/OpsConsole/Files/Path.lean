import OpsConsole.Text.Fields

/-!
# Paths

A path is a text of names between slashes. Slashes in a row count as one, and so do a slash and a
dot after the first name. The directory of a path is what stands before its last name; the sibling
of a path has another extension, which is what follows the last dot of a name that does not begin
with it.
-/

namespace OpsConsole.Files

open Text

/-- The names of a path, dots among them. -/
def names (path : String) : List String :=
  ((fields (· == '/') path.toList).filter (!·.isEmpty)).map String.ofList

def isAbsolute (path : String) : Bool := path.toList.head? == some '/'

def endsInSlash (path : String) : Bool := path.toList.getLast? == some '/'

/-- The names that count: a dot does only in front. -/
def parts (path : String) : List String :=
  match names path with
  | [] => []
  | n :: rest =>
    (if n = "." ∧ isAbsolute path then [] else [n]) ++ rest.filter (· ≠ ".")

def directoryParts (path : String) : List String := (parts path).dropLast

def join (absolute : Bool) (parts : List String) : String :=
  (if absolute then "/" else "") ++ String.intercalate "/" parts

def directory (path : String) : String := join (isAbsolute path) (directoryParts path)

/-- The parts of all directories above, the nearest first, with at least one part each. -/
def ascending : List String → List (List String)
  | [] => []
  | n :: rest => (ascending rest).map (n :: ·) ++ [[n]]

def directories (path : String) : List String :=
  (ascending (directoryParts path)).map (join (isAbsolute path))

def stem (name : String) : String :=
  match cutLast? (· == '.') name.toList with
  | none | some ([], _) => name
  | some (before, _) => String.ofList before

def withExtension (path extension : String) : String :=
  match (parts path).getLast? with
  | none | some "." | some ".." => path
  | some name =>
    join (isAbsolute path) (directoryParts path ++ [stem name ++ "." ++ extension])

end OpsConsole.Files
