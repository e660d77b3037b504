import OpsConsole.Access.Token
import OpsConsole.Files.Basic

/-!
# The token file

The token of the session is kept in one file between runs. Saving writes a sibling file, makes it
private and renames it, so the token file changes in one step or not at all. A file that is not
there, or holds nothing but blanks, holds no token; clearing a file that is not there succeeds.
-/

namespace OpsConsole

structure TokenFile where
  path : String
  deriving DecidableEq, Inhabited

inductive TokenFileCause
  | file (cause : FileError)
  /-- The contents are no text. -/
  | notText
  deriving DecidableEq, Inhabited

structure TokenFileError where
  path : String
  cause : TokenFileCause
  deriving DecidableEq, Inhabited

namespace TokenFileCause

def message : TokenFileCause → String
  | file cause => cause.message
  | notText => "stream did not contain valid UTF-8"

end TokenFileCause

namespace TokenFileError

def message (e : TokenFileError) : String :=
  "token store io error at " ++ e.path ++ ": " ++ e.cause.message

end TokenFileError

namespace TokenFile

def sibling (t : TokenFile) : String := Files.withExtension t.path "tmp"

def error (t : TokenFile) (cause : FileError) : TokenFileError := ⟨t.path, .file cause⟩

def load (t : TokenFile) (f : Files) : Except TokenFileError (Option BearerToken) :=
  match f.read t.path with
  | .error .notFound => .ok none
  | .error e => .error (t.error e)
  | .ok bytes =>
    match Text.Utf8.strict? bytes with
    | none => .error ⟨t.path, .notText⟩
    | some s => .ok (BearerToken.ofText? s)

def saving (t : TokenFile) (token : BearerToken) : List FileStep :=
  let dir := Files.directory t.path
  (if dir = "" then [] else [.makeDirectories dir]) ++
    [.write t.sibling (Text.Utf8.encode token.text), .restrict t.sibling,
      .rename t.sibling t.path]

def save (t : TokenFile) (faults : Files.Faults) (f : Files) (token : BearerToken) :
    Files × Except TokenFileError Unit :=
  match f.performAll faults (t.saving token) with
  | (f, none) => (f, .ok ())
  | (f, some e) => (f, .error (t.error e))

def clear (t : TokenFile) (faults : Files.Faults) (f : Files) :
    Files × Except TokenFileError Unit :=
  match f.performAll faults [.remove t.path] with
  | (f, none) | (f, some .notFound) => (f, .ok ())
  | (f, some e) => (f, .error (t.error e))

end TokenFile

end OpsConsole
