import OpsConsole.Access.Claim
import OpsConsole.Json.Document
import OpsConsole.Json.Printer
import OpsConsole.Text.Sorted

/-!
# Users

A user holds roles and permissions. An administrator satisfies every claim; any other user needs
the text of the claim, or that of the same claim on every scope, among the permissions. A user is
read from a record that may leave out everything but the identifier, either straight from a text
or from a value; both readings interpret the fields by `ofFields`.
-/

namespace OpsConsole

open Json

structure User where
  id : String
  username : String
  email : String
  roles : TextSet
  permissions : TextSet
  enabled : Bool
  mfaEnabled : Bool
  deriving DecidableEq, Inhabited

namespace User

def adminRole : String := "admin"

def isAdmin (u : User) : Bool := adminRole ∈ u.roles

def satisfies (u : User) (c : Claim) : Bool :=
  u.isAdmin || c.text ∈ u.permissions || (c.withScope Claim.wildcard).text ∈ u.permissions

def fieldNames : List String :=
  ["id", "username", "email", "roles", "permissions", "enabled", "mfaEnabled"]

/-- A field that may be missing. -/
def optional {α : Type} (read : Value → Option α) (default : α) : Option Value → Option α
  | none => some default
  | some v => read v

def textSet? (v : Value) : Option TextSet := v.texts?.map TextSet.ofList

def ofFields : List (Option Value) → Option User
  | [some id, username, email, roles, permissions, enabled, mfaEnabled] => do
    let id ← id.identifier?
    let username ← optional Value.text? "" username
    let email ← optional Value.text? "" email
    let roles ← optional textSet? ∅ roles
    let permissions ← optional textSet? ∅ permissions
    let enabled ← optional Value.boolean? true enabled
    let mfaEnabled ← optional Value.boolean? false mfaEnabled
    some ⟨id, username, email, roles, permissions, enabled, mfaEnabled⟩
  | _ => none

def ofValue? (v : Value) : Option User :=
  (v.fields? fieldNames).bind ofFields

/-- The value of a field. No field of a user nests deeper than one array. -/
def fieldValue? : Option Document → Option (Option Value)
  | none => some none
  | some d => (d.value? 1).map some

def ofDocument? (d : Document) : Option User :=
  ((d.fields? fieldNames).bind fun fields => fields.mapM fieldValue?).bind ofFields

def parse? (text : String) : Option User :=
  (Document.parse text.toList).bind ofDocument?

def toMembers (u : User) : List (String × Value) :=
  let texts (s : TextSet) : Value := .array (s.items.map .text)
  [("id", .text u.id), ("username", .text u.username), ("email", .text u.email),
    ("roles", texts u.roles), ("permissions", texts u.permissions),
    ("enabled", .boolean u.enabled), ("mfaEnabled", .boolean u.mfaEnabled)]

def render (u : User) : String := renderRecord u.toMembers

end User

end OpsConsole
