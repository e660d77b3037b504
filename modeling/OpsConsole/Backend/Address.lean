import OpsConsole.Text.Blank
import OpsConsole.Url.Reader

/-!
# The address of the backend

The backend is reached over HTTP, with or without encryption. Every endpoint stands below one
fixed path of its host, whatever path, query and fragment the address has, and so does the feed,
which is encrypted exactly when the backend is. Identifiers become single segments of a path.
-/

namespace OpsConsole

inductive AddressError
  | invalid (text : String) (cause : UrlError)
  | unsupportedScheme (scheme : String)
  deriving DecidableEq, Inhabited

namespace AddressError

def message : AddressError → String
  | invalid text cause => "invalid backend url '" ++ text ++ "': " ++ cause.message
  | unsupportedScheme scheme =>
    "unsupported backend scheme '" ++ scheme ++ "', expected http or https"

end AddressError

namespace Backend

/-- Reads the address of a backend. Blank characters around it are passed over. -/
def parse (text : String) : Except AddressError Url :=
  match Url.parse (Text.trim text) with
  | .error cause => .error (.invalid text cause)
  | .ok u =>
    if u.scheme = "http" ∨ u.scheme = "https" then .ok u
    else .error (.unsupportedScheme u.scheme)

def feedScheme? (scheme : String) : Option String :=
  match scheme with
  | "http" => some "ws"
  | "https" => some "wss"
  | _ => none

def apiSegments : List String := ["api", "v1"]

def feedSegments : List String := apiSegments ++ ["ws"]

def feedAddress (u : Url) : Except AddressError Url :=
  match feedScheme? u.scheme with
  | none => .error (.unsupportedScheme u.scheme)
  | some scheme =>
    .ok { u with scheme, path := .rooted feedSegments, query := none, fragment := none }

def endpointSegments (special : Bool) (segments : List String) : List String :=
  (apiSegments ++ segments).foldl (Url.pushSegment special) []

/-- The address of an endpoint, unless the base cannot have one below it. -/
def endpoint? (base : Url) (segments : List String) : Option Url :=
  match base.path with
  | .rootless _ => none
  | .rooted _ =>
    some { base with
      path := .rooted (endpointSegments base.isSpecial segments)
      query := none
      fragment := none }

end Backend

end OpsConsole
