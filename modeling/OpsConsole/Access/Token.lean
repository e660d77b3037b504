import OpsConsole.Text.Blank
import OpsConsole.Json.Printer

/-!
# Bearer tokens

A bearer token is a text that is trimmed and not empty. Making one from a text trims it first, so
exactly the blank texts make none.
-/

namespace OpsConsole

structure BearerToken where
  text : String
  trimmed : Text.trim text = text
  nonempty : text ≠ ""
  deriving DecidableEq

namespace BearerToken

def ofText? (s : String) : Option BearerToken :=
  if h : Text.trim s = "" then none else some ⟨Text.trim s, Text.trim_trim s, h⟩

@[ext] theorem ext {a b : BearerToken} (h : a.text = b.text) : a = b := by
  cases a; cases b; cases h; rfl

@[simp] theorem ofText?_text (t : BearerToken) : ofText? t.text = some t := by
  unfold ofText?
  rw [dif_neg (by rw [t.trimmed]; exact t.nonempty)]
  exact congrArg some (ext t.trimmed)

def header (t : BearerToken) : String := "Bearer " ++ t.text

def masked : String := "***"

def shown (_ : BearerToken) : String := "BearerToken(" ++ masked ++ ")"

def render (t : BearerToken) : String := (Json.Value.text t.text).render

/-- A header value may hold no control character but the tab. -/
def sendable (t : BearerToken) : Bool :=
  t.header.toList.all fun c => c == '\t' || (0x20 ≤ c.toNat && c.toNat != 0x7F)

end BearerToken

end OpsConsole
