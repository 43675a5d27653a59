import MultiSigner.Operation.Basic
import MultiSigner.Update.Message
/-!
# Signed updates

An updater that sends update messages which are signed with a key that it shares with the signer.
How a message reaches the signer is left open: an `Exchange` sends it and gives the response.

Nothing is sent for an empty change set, without a key, or for records that can not be sent.

## Contents

1. Response codes.
2. Keys and exchanges.
3. The updaters.
-/

namespace MultiSigner

/-! ## 1. Response codes -/

/-- The code by which a server tells how a request went. -/
structure ResponseCode where
  number : Nat
  deriving Repr, DecidableEq

namespace ResponseCode

/-- Everything went well. -/
def noError : ResponseCode := ⟨0⟩

/-- The wordings of the codes that have one. -/
def wordings : List (Nat × String) :=
  [(0, "No Error"), (1, "Form Error"), (2, "Server Failure"), (3, "Non-Existent Domain"),
    (4, "Not Implemented"), (5, "Query Refused"), (6, "Name should not exist"),
    (7, "RR Set should not exist"), (8, "RR Set does not exist"), (9, "Not authorized"),
    (10, "Name not in zone"), (16, "TSIG Failure"), (17, "Key not recognized"),
    (18, "Signature out of time window"), (19, "Bad TKEY mode"), (20, "Duplicate key name"),
    (21, "Algorithm not supported"), (22, "Bad truncation"), (23, "Bad server cookie")]

/-- The wording of a code. -/
def text (c : ResponseCode) : String :=
  ((wordings.find? fun w => w.1 == c.number).map Prod.snd).getD "Unknown response code"

end ResponseCode

/-! ## 2. Keys and exchanges -/

/-- A key that signs messages. -/
structure SigningKey where
  name : DomainName
  secret : List UInt8
  deriving Repr, DecidableEq

/-- The response to a message. -/
structure UpdateResponse where
  code : ResponseCode
  /-- How the response is shown, with its signature.  The digest in there depends on the secret of
  the key. -/
  text : String
  deriving Repr, DecidableEq

/-- Sends a message, signed with a key, to the server at an address, and waits for the response. -/
abbrev Exchange (ω : Type) :=
  String → SigningKey → UpdateMessage → ω → Except Error UpdateResponse × ω

/-- The key of the given name. -/
def SigningKey.ofSecret (name : String) (secret : List UInt8) : Except Error SigningKey :=
  match DomainName.parse name with
  | .ok keyName => .ok ⟨keyName, secret⟩
  | .error reason => .error (.invalidName name reason)

/-! ## 3. The updaters -/

namespace SignedUpdate

variable {ω : Type}

/-- What has to be sent for an update: the message and the key. -/
def prepare (u : Update) : Except Error (UpdateMessage × SigningKey) := do
  if u.changes.isEmpty then throw .emptyUpdate
  match u.target.credential with
  | .token _ _ => throw (.missingCredential u.target.signer)
  | .tsig name secret =>
    let message ← UpdateMessage.ofChanges u.zone u.changes
    return (message, ← SigningKey.ofSecret name secret)

/-- The line above a message that is shown. -/
def caption (u : Update) (what : String) : String :=
  s!"debug-updater: {what} {u.target.signer}:"

/-- The lines that show a message, if they are asked for. -/
def report (u : Update) (what text : String) : List String :=
  if u.target.debug then [caption u what, text] else []

/-- What a response says about an update. -/
def judge (u : Update) (r : UpdateResponse) : Except Error Unit :=
  if r.code = .noError then .ok () else .error (.updateRejected u.target.signer r.code.text)

/-- Sends an update. -/
def send (exchange : Exchange ω) (u : Update) (w : ω) : UpdateReply ω :=
  match prepare u with
  | .error e => ⟨[], .error e, w⟩
  | .ok (message, key) =>
    let request := report u "request to" message.text
    match exchange u.target.address key message w with
    | (.error e, w) => ⟨request, .error e, w⟩
    | (.ok response, w) => ⟨request ++ report u "response from" response.text, judge u response, w⟩

/-- The updater for signers that take signed updates. -/
def updater (exchange : Exchange ω) : Updater ω :=
  ⟨.ok (), send exchange⟩

/-- The updater for signers that are changed in another way, which can not be used. -/
def unsupported (kind : UpdaterKind) : Updater ω :=
  ⟨.error (.updaterUnsupported kind), fun _ w => ⟨[], .error (.updaterUnsupported kind), w⟩⟩

/-- The updaters of a process. -/
def updaters (exchange : Exchange ω) : UpdaterKind → Option (Updater ω)
  | .nsupdate => some (updater exchange)
  | .desec => some (unsupported .desec)

end SignedUpdate
end MultiSigner
