import OpsConsole.Backend.Exchange

/-!
# A client

A client that keeps to what `Transport` asks. It asks elsewhere where a redirect names a whole
address, at most ten times: with the same request where the status says so, and else without a
body. The token goes along to the same host only.
-/

namespace OpsConsole

namespace Url

def peer (u : Url) : Option (Host × Option Nat) :=
  u.authority.map fun a => (a.host, a.port <|> usualPort? u.scheme)

end Url

namespace Request

/-- The same request elsewhere, without a token that is not for there. -/
def movedTo (r : Request) (address : Url) : Request :=
  { r with address, token := if address.peer = r.address.peer then r.token else none }

def redirected? (r : Request) (reply : Reply) : Option Request :=
  if reply.isRedirect then
    match reply.location.map Url.parse with
    | some (.ok address) =>
      some (if reply.status = 307 ∨ reply.status = 308 then r.movedTo address
        else { r.movedTo address with method := .get, body := none })
    | _ => none
  else none

def failure (r : Request) (cause : String) : String :=
  cause ++ " for url (" ++ r.address.anonymous.render ++ ")"

def refusal (r : Request) : String :=
  if r.hasSendableToken then r.failure "builder error" else "builder error"

theorem token_redirected? {r next : Request} {reply : Reply}
    (h : r.redirected? reply = some next) : next.token = r.token ∨ next.token = none := by
  have hmoved (address : Url) :
      (r.movedTo address).token = r.token ∨ (r.movedTo address).token = none := by
    rw [movedTo]
    dsimp only
    split
    · exact .inl rfl
    · exact .inr rfl
  rw [redirected?] at h
  split at h
  · split at h
    · cases h
      split
      · exact hmoved _
      · exact hmoved _
    · cases h
  · cases h

theorem isRedirect_of_redirected? {r next : Request} {reply : Reply}
    (h : r.redirected? reply = some next) : reply.isRedirect = true := by
  rw [redirected?] at h
  split at h
  · next hredirect => exact hredirect
  · cases h

end Request

namespace Transport

variable {backend : Responder}

/-- Sends a request, and asks elsewhere while it may. -/
def follow (backend : Responder) (hops : Nat) (before : List Request) (r : Request) :
    Exchange (Except String Reply) :=
  match backend before r with
  | none => ⟨[r], .error (r.failure "error sending request")⟩
  | some reply =>
    match r.redirected? reply, hops with
    | none, _ => ⟨[r], .ok reply⟩
    | some _, 0 => ⟨[r], .error (r.failure "error following redirect")⟩
    | some next, hops + 1 => (follow backend hops (before ++ [r]) next).afterwards r

/-- What sending a request may come to. -/
inductive Sent (backend : Responder) :
    Nat → List Request → Request → Exchange (Except String Reply) → Prop
  | last {hops : Nat} {before : List Request} {r : Request} {result : Except String Reply}
    (h : backend.Settles before r result) : Sent backend hops before r ⟨[r], result⟩
  | redirected {hops : Nat} {before : List Request} {r next : Request}
    {x : Exchange (Except String Reply)} (h : backend.Redirects before r)
    (htoken : next.token = r.token ∨ next.token = none)
    (hx : Sent backend hops (before ++ [r]) next x) :
    Sent backend (hops + 1) before r (x.afterwards r)

theorem sent_follow (backend : Responder) (hops : Nat) (before : List Request) (r : Request) :
    Sent backend hops before r (follow backend hops before r) := by
  induction hops generalizing before r with
  | zero =>
    rw [follow]
    split
    · next h => exact .last (.unanswered h _)
    · next reply h =>
      split
      · exact .last (.replied h)
      · next hnext _ => exact .last (.astray ⟨reply, h, Request.isRedirect_of_redirected? hnext⟩ _)
      · next hhops => cases hhops
  | succ hops ih =>
    rw [follow]
    split
    · next h => exact .last (.unanswered h _)
    · next reply h =>
      split
      · exact .last (.replied h)
      · next hhops => cases hhops
      · next next k hnext hhops =>
        cases hhops
        exact .redirected ⟨reply, h, Request.isRedirect_of_redirected? hnext⟩
          (Request.token_redirected? hnext) (ih _ next)

namespace Sent

variable {hops : Nat} {before : List Request} {r q : Request} {x : Exchange (Except String Reply)}

theorem head?_requests (h : Sent backend hops before r x) : x.requests.head? = some r := by
  cases h <;> rfl

theorem ne_nil (h : Sent backend hops before r x) : x.requests ≠ [] :=
  List.ne_nil_of_mem (List.mem_of_head? h.head?_requests)

theorem redirects (h : Sent backend hops before r x) {gone after : List Request} {next : Request}
    (hx : x.requests = gone ++ q :: next :: after) : backend.Redirects (before ++ gone) q := by
  induction h generalizing gone with
  | last =>
    have hlength := congrArg List.length hx
    simp only [List.length_append, List.length_cons, List.length_nil] at hlength
    omega
  | redirected h _ _ ih =>
    cases gone with
    | nil =>
      obtain ⟨rfl, -⟩ := List.cons.inj hx
      rwa [List.append_nil]
    | cons first gone =>
      obtain ⟨rfl, hrest⟩ := List.cons.inj hx
      have hq := ih hrest
      rwa [List.append_assoc] at hq

theorem length_requests_le (h : Sent backend hops before r x) : x.requests.length ≤ hops + 1 := by
  induction h with
  | last => exact Nat.succ_le_succ (Nat.zero_le _)
  | redirected _ _ _ ih => exact Nat.succ_le_succ ih

theorem token_eq_or (h : Sent backend hops before r x) (hq : q ∈ x.requests) :
    q.token = r.token ∨ q.token = none := by
  induction h with
  | last => exact .inl (congrArg Request.token (List.mem_singleton.1 hq))
  | redirected _ htoken _ ih =>
    rcases List.mem_cons.1 hq with rfl | hq
    · exact .inl rfl
    · rcases ih hq with hnext | hnone
      · exact htoken.imp hnext.trans hnext.trans
      · exact .inr hnone

theorem settles (h : Sent backend hops before r x) {gone : List Request}
    (hx : x.requests = gone ++ [q]) : backend.Settles (before ++ gone) q x.result := by
  induction h generalizing gone with
  | @last hops before r result h =>
    obtain ⟨rfl, rfl⟩ := List.append_singleton_inj.1 (show [] ++ [r] = gone ++ [q] from hx)
    rwa [List.append_nil]
  | redirected _ _ hrest ih =>
    cases gone with
    | nil =>
      obtain ⟨-, hnil⟩ := List.cons.inj hx
      exact (hrest.ne_nil hnil).elim
    | cons first gone =>
      obtain ⟨rfl, hrest⟩ := List.cons.inj hx
      have hq := ih hrest
      rwa [List.append_assoc] at hq

end Sent

def plain (backend : Responder) : Transport where
  backend
  send r := if r.isSendable then follow backend 10 [] r else .idle (.error r.refusal)
  unsent h := ⟨_, if_neg (Bool.not_eq_true _ ▸ h)⟩
  first h := by rw [if_pos h]; exact (sent_follow backend 10 [] _).head?_requests
  redirected h := by
    split at h
    · exact (sent_follow backend 10 [] _).redirects h
    · exact (List.append_ne_nil_of_right_ne_nil _ (List.cons_ne_nil _ _) h.symm).elim
  bounded r := by
    split
    · exact (sent_follow backend 10 [] r).length_requests_le
    · exact Nat.zero_le _
  token h := by
    split at h
    · exact (sent_follow backend 10 [] _).token_eq_or h
    · cases h
  settled h := by
    split at h
    · next hsend =>
      rw [if_pos hsend]
      exact (sent_follow backend 10 [] _).settles h
    · exact (List.append_ne_nil_of_right_ne_nil _ (List.cons_ne_nil _ _) h.symm).elim

end Transport

end OpsConsole
