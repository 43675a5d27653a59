import MultiSigner.Controller
import MultiSigner.Rpc.MediaType
import MultiSigner.Rpc.Message
/-!
# The interface of the daemon

The daemon takes commands as HTTP requests.  The status of a reply tells what kind of failure a
command had.

## Contents

1. Requests and responses.
2. The status of a failure.
3. The body of a command.
4. Paths.
-/

namespace MultiSigner.Rpc

open Json (Draft Fault)

/-! ## 1. Requests and responses -/

/-- A request. -/
structure Request where
  method : String
  path : String
  contentType : Option String := none
  body : String := ""
  deriving Repr, DecidableEq

/-- The content of a response. -/
inductive Body
  | empty
  | text (s : String)
  | json (v : Json)

/-- The characters of a body. -/
def Body.content : Body → String
  | empty => ""
  | text s => s
  | json v => v.compact

/-- A response. -/
structure Response where
  status : Nat
  contentType : Option String := none
  body : Body := .empty

/-- A response whose body is JSON. -/
def Response.ofJson (status : Nat) (v : Json) : Response :=
  ⟨status, some "application/json", .json v⟩

/-- A response whose body is text. -/
def Response.ofText (status : Nat) (s : String) : Response :=
  ⟨status, some "text/plain; charset=utf-8", .text s⟩

/-- What is answered to a request for the head of a response. -/
def Response.head (r : Response) : Response :=
  { r with body := .empty }

/-! ## 2. The status of a failure -/

/-- The status of a failed command.  Commands that a group or signer does not allow as it is are in
conflict with it. -/
def failureStatus (e : Error) : Nat :=
  match e with
  | .wrongStage _ _ _ => 409
  | .automationRunning _ => 409
  | .automationNotRunning _ => 409
  | .groupExists _ => 409
  | .groupHasSigners _ => 409
  | .signerExists _ => 409
  | .signerNotLeaving _ => 409
  | e =>
    match e.kind with
    | .validation => 400
    | .transport => 502
    | .configuration => 500
    | .protocol => 500
    | .storage => 500

/-- The response to a command that failed. -/
def failed (status : Nat) (failure : String) (lines : List String) : Response :=
  .ofJson status (CommandReply.json ⟨lines, some failure⟩)

/-- The response to a command. -/
def respond (lines : List String) : Except Error Unit → Response
  | .ok _ => .ofJson 200 (CommandReply.json ⟨lines, none⟩)
  | .error e => failed (failureStatus e) e.message lines

/-! ## 3. The body of a command -/

/-- Why a body is refused. -/
inductive Refusal
  | notJson
  | tooLong
  | broken
  | otherShape
  deriving Repr, DecidableEq

namespace Refusal

/-- The status of a refusal. -/
def status : Refusal → Nat
  | notJson => 415
  | tooLong => 500
  | broken => 400
  | otherShape => 422

/-- The wording of a refusal. -/
def message : Refusal → String
  | notJson => "Expected request with `Content-Type: application/json`"
  | tooLong => "Failed to buffer the request body"
  | broken => "Failed to parse the request body as JSON"
  | otherShape => "Failed to deserialize the JSON body into the target type"

end Refusal

/-- The number of bytes that a body may have. -/
def bodyLimit : Nat := 2097152

/-- The arguments in the body of a request.  What follows the first value is not looked at. -/
def readArguments (r : Request) : Except Refusal (List String) :=
  if !MediaType.saysJson r.contentType then .error .notJson
  else if bodyLimit < r.body.utf8ByteSize then .error .tooLong
  else
    match decodeRequest (Draft.ofText r.body) with
    | .ok args => .ok args
    | .error .syntaxError => .error .broken
    | .error .dataError => .error .otherShape

/-! ## 4. Paths -/

variable {ω : Type}

/-- The command that runs a daemon, and so can not be sent to one. -/
def daemonCommand : String := "daemon"

/-- Runs the command with the given arguments. -/
def runArguments (c : Controller ω) (args : List String) (s : Session ω) :
    Response × Session ω :=
  if args.head? = some daemonCommand then
    (respond [] (.error (.noRemoteCall daemonCommand)), s)
  else
    let (result, t) := c.execute args { s with transcript := .empty }
    (respond t.transcript.lines result, t)

/-- Runs the command of a request. -/
def command (c : Controller ω) (r : Request) (s : Session ω) : Response × Session ω :=
  match readArguments r with
  | .error refusal => (failed refusal.status refusal.message [], s)
  | .ok args => runArguments c args s

/-- Says that the daemon is there. -/
def health : Response :=
  .ofJson 200 (.object [("ok", .string "healthy")])

/-- What is answered to observers that do not change to another protocol. -/
def noUpgrade (method : String) : Response :=
  if method = "GET" then .ofText 400 "Connection header did not include 'upgrade'"
  else .ofText 405 "Request method must be `GET`"

/-- The path of a request without its query. -/
def pathOnly (path : String) : String :=
  String.ofList (path.toList.takeWhile (· ≠ '?'))

/-- A response to requests for a content or its head; other methods are not allowed. -/
def getOnly (method : String) (r : Response) : Response :=
  if method = "GET" then r
  else if method = "HEAD" then r.head
  else ⟨405, none, .empty⟩

/-- Answers a request. -/
def handle (c : Controller ω) (r : Request) (s : Session ω) : Response × Session ω :=
  match pathOnly r.path with
  | "/healthcheck" => (getOnly r.method health, s)
  | "/command" =>
    if r.method = "POST" then command c r s else (⟨405, none, .empty⟩, s)
  | "/ws" => (getOnly r.method (noUpgrade r.method), s)
  | _ => (⟨404, none, .empty⟩, s)

/-- Answers requests in turn. -/
def handleAll (c : Controller ω) : List Request → Session ω → List Response
  | [], _ => []
  | r :: rest, s =>
    let (response, s) := handle c r s
    response :: handleAll c rest { s with scheduler := s.scheduler.settle }

end MultiSigner.Rpc
