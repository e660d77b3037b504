import OpsConsole.Backend.Client
import OpsConsole.Proofs.SignIn.Saving

/-!
# What an action does

An action that the session does not permit sends nothing, and neither does one for which the base
has no endpoint. Any other action becomes one request with the token of the session. If the token
may stand in a header and the address in a request line, the request is sent, once. Where a redirect
sends the client elsewhere, at most ten times, the last reply counts. A reply that refuses the token
makes the session expire; whatever else comes back, or nothing, leaves the store as it was.

So no actions, however many, begin a session or put one in the place of another, and a session
that they end was refused by the backend.
-/

namespace OpsConsole

open Json

namespace Reply

theorem isUnauthorized_iff {reply : Reply} : reply.isUnauthorized = true ↔ reply.status = 401 := by
  rw [isUnauthorized, unauthorizedStatus, beq_iff_eq]

end Reply

namespace Backend

variable {base : Url} {transport : Transport} {s : SessionStore} {a : Action} {o : Order}

theorem complete_eq_or (transport : Transport) (s : SessionStore)
    (x : Except ActionError Request) :
    (complete transport s x).result.1 = s ∨ (complete transport s x).result.1 = s.expire := by
  cases x with
  | error e => exact .inl rfl
  | ok r => exact (s.settle_eq_or r (transport.send r).result.toOption).imp_right And.left

end Backend

end OpsConsole
