import MultiSigner.Rpc.Router
import MultiSigner.Rpc.Status
/-!
# Commands for a daemon elsewhere

A command is sent to a daemon as a request; its lines and its failure are those of the reply.

## Contents

1. The request.
2. The reply.
3. The exchange.
-/

namespace MultiSigner.Rpc.Client

open Json (Draft)

/-! ## 1. The request -/

/-- The request for a command. -/
def request (args : List String) : Request :=
  ⟨"POST", "/command", some "application/json", (requestJson args).compact⟩

/-! ## 2. The reply -/

/-- The lines of a reply, and how the command went. -/
def interpret (status : Nat) (body : String) : List String × Except Error Unit :=
  if 200 ≤ status ∧ status < 300 then
    match Draft.decodeText decodeLines body with
    | .ok lines => (lines, .ok ())
    | .error _ => ([], .error .invalidJson)
  else
    match Draft.decodeText decodeFailure body with
    | .ok reply => (reply.lines, .error (.remote (reply.failure.getD "")))
    | .error _ => ([], .error (.remote (statusText status)))

/-! ## 3. The exchange -/

/-- Sends a command by way of an exchange, which fails with a reason or gives status and body. -/
def execute (exchange : Request → Except String (Nat × String)) (args : List String) :
    List String × Except Error Unit :=
  match exchange (request args) with
  | .error reason => ([], .error (.remote reason))
  | .ok (status, body) => interpret status body

/-- Sends a command to a daemon that is at hand. -/
def executeAt {ω : Type} (c : Controller ω) (args : List String) (s : Session ω) :
    (List String × Except Error Unit) × Session ω :=
  let (response, t) := handle c (request args) s
  (interpret response.status response.body.content, t)

/-- Why a request to a host without a network fails. -/
def unreachable : String :=
  "error trying to connect: tcp connect error: Network is unreachable (os error 101)"

end MultiSigner.Rpc.Client
