import OpsConsole.Text.Blank

/-!
# Claims

A claim names what an operator wants to do: an action on a resource within a scope. Its text joins
the three with colons. Reading takes the first two colons as the joints, so only a scope can hold
more of them; a missing scope is the wildcard.
-/

namespace OpsConsole

structure Claim where
  resource : String
  action : String
  scope : String
  deriving DecidableEq, Inhabited

namespace Claim

def wildcard : String := "*"

def plain (resource action : String) : Claim := ⟨resource, action, wildcard⟩

def withScope (c : Claim) (scope : String) : Claim := { c with scope }

def text (c : Claim) : String :=
  c.resource ++ ":" ++ c.action ++ ":" ++ c.scope

def cut : List Char → List Char × Option (List Char)
  | [] => ([], none)
  | c :: r => if c = ':' then ([], some r) else let (a, b) := cut r; (c :: a, b)

/-- The resource and the action must not be empty. -/
def parse? (text : String) : Option Claim :=
  match cut (Text.trimChars text.toList) with
  | (_, none) => none
  | (resource, some rest) =>
    let (action, scope) := cut rest
    if resource = [] ∨ action = [] then none
    else
      match scope with
      | none | some [] => some (plain (String.ofList resource) (String.ofList action))
      | some scope =>
        some ⟨String.ofList resource, String.ofList action, String.ofList scope⟩

end Claim

end OpsConsole
