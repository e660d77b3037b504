import OpsConsole.Access.Token
import OpsConsole.Url.Reader
import OpsConsole.Url.RequestTarget

/-!
# Exchanges with the backend

A request is handed to a client, which sends it and brings back the last reply, or says why it has
none. The client is not part of the console: `Transport` says what is relied on. A request whose
token may not stand in a header, or whose address may not stand in a request line, is not sent at
all. Where a reply says to ask elsewhere the client may do so by itself. Who asks is told in a
header, not in the address.
-/

namespace OpsConsole

inductive Method
  | get
  | post
  | put
  | delete
  deriving DecidableEq, Inhabited

namespace Method

def name : Method → String
  | get => "GET"
  | post => "POST"
  | put => "PUT"
  | delete => "DELETE"

end Method

structure Request where
  method : Method
  address : Url
  token : Option BearerToken
  body : Option String
  deriving DecidableEq

structure Reply where
  status : Nat
  location : Option String
  /-- Absent when it broke off. -/
  body : Option (List UInt8)
  deriving DecidableEq, Inhabited

namespace Reply

def isSuccess (r : Reply) : Bool := 200 ≤ r.status && r.status < 300

def redirectStatuses : List Nat := [301, 302, 303, 307, 308]

def isRedirect (r : Reply) : Bool := redirectStatuses.contains r.status && r.location.isSome

end Reply

/-- The backend, by what it replies to a request, if anything, after those that were sent before. -/
abbrev Responder : Type := List Request → Request → Option Reply

namespace Responder

def Redirects (backend : Responder) (before : List Request) (r : Request) : Prop :=
  ∃ reply, backend before r = some reply ∧ reply.isRedirect = true

/-- What a client may make of the last request that it sent: it hands over the reply, or says why
there is none, or why it did not ask elsewhere. -/
inductive Settles (backend : Responder) (before : List Request) (r : Request) :
    Except String Reply → Prop
  | replied {reply : Reply} (h : backend before r = some reply) :
    Settles backend before r (.ok reply)
  | unanswered (h : backend before r = none) (cause : String) :
    Settles backend before r (.error cause)
  | astray (h : backend.Redirects before r) (cause : String) :
    Settles backend before r (.error cause)

end Responder

/-- What was sent on the way to a result. -/
structure Exchange (α : Type) where
  requests : List Request
  result : α

namespace Exchange

variable {α β : Type}

def map (f : α → β) (x : Exchange α) : Exchange β := ⟨x.requests, f x.result⟩

def idle (a : α) : Exchange α := ⟨[], a⟩

def afterwards (r : Request) (x : Exchange α) : Exchange α := ⟨r :: x.requests, x.result⟩

end Exchange

theorem eq_ok_of_isOk {ε : Type} {x : Except ε Unit} (h : x.isOk = true) : x = .ok () := by
  cases x with
  | error e => cases h
  | ok u => rfl

theorem eq_ok_of_toOption {ε α : Type} {x : Except ε α} {a : α} (h : x.toOption = some a) :
    x = .ok a := by
  cases x with
  | error e => cases h
  | ok b => exact congrArg Except.ok (Option.some.inj h)

namespace Request

def hasSendableToken (r : Request) : Bool := r.token.all BearerToken.sendable

def isSendable (r : Request) : Bool :=
  r.hasSendableToken && r.address.anonymous.isRequestable

def target (r : Request) : String :=
  String.ofList (r.address.path.chars ++ Url.marked '?' r.address.query)

def authorization? (r : Request) : Option String := r.token.map BearerToken.header

end Request

/-- A client with the backend that it reaches. It sends what can be sent, as it is, and never again:
anything more that it sends answers a redirect, at most ten times, and carries no other token. -/
structure Transport where
  backend : Responder
  send : Request → Exchange (Except String Reply)
  unsent {r : Request} : r.isSendable = false → ∃ cause, send r = .idle (.error cause)
  first {r : Request} : r.isSendable = true → (send r).requests.head? = some r
  redirected {r q next : Request} {before after : List Request} :
    (send r).requests = before ++ q :: next :: after → backend.Redirects before q
  bounded (r : Request) : (send r).requests.length ≤ 11
  token {r q : Request} : q ∈ (send r).requests → q.token = r.token ∨ q.token = none
  settled {r q : Request} {before : List Request} :
    (send r).requests = before ++ [q] → backend.Settles before q (send r).result

namespace Transport

variable {t : Transport} {r : Request}

theorem send_of_direct (h : r.isSendable = true) (hr : ¬ t.backend.Redirects [] r) :
    (t.send r).requests = [r] ∧ t.backend.Settles [] r (t.send r).result := by
  obtain ⟨rest, hrest⟩ := List.head?_eq_some_iff.1 (t.first h)
  have hrequests : (t.send r).requests = [r] := by
    cases rest with
    | nil => exact hrest
    | cons next rest =>
      have hmore : (t.send r).requests = [] ++ r :: next :: rest := hrest
      exact (hr (t.redirected hmore)).elim
  exact ⟨hrequests, t.settled hrequests⟩

theorem result_of_reply {reply : Reply} (h : r.isSendable = true)
    (hreply : t.backend [] r = some reply) (hdirect : reply.isRedirect = false) :
    (t.send r).result = .ok reply := by
  have hr : ¬ t.backend.Redirects [] r := by
    rintro ⟨other, hother, hredirect⟩
    rw [hreply] at hother
    cases hother
    rw [hdirect] at hredirect
    cases hredirect
  obtain ⟨-, hsettles⟩ := send_of_direct h hr
  generalize (t.send r).result = result at hsettles
  cases hsettles with
  | replied hother =>
    rw [hreply] at hother
    cases hother
    rfl
  | unanswered hnone =>
    rw [hreply] at hnone
    cases hnone
  | astray hredirects => exact (hr hredirects).elim

end Transport

end OpsConsole
