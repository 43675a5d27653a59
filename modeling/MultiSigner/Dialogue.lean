import MultiSigner.State.File
import MultiSigner.Update.Signed
/-!
# Talking with the outside

An operation can be run against replies that were given beforehand.  Where they do not suffice, the
first request without a reply is kept, and everything after it is void: the operation is to be run
once more from the start, with one reply more.  Since an operation asks the same as long as it gets
the same replies, each request is put to the outside once.

The clock stands still between replies.

## Contents

1. Requests and replies.
2. Dialogues.
3. The outside that a dialogue is.
-/

namespace MultiSigner

/-! ## 1. Requests and replies -/

/-- What an operation asks of the outside. -/
inductive OutsideRequest
  | query (server : String) (zone : DomainName) (kind : RecordKind)
  | update (server : String) (key : SigningKey) (message : UpdateMessage)
  /-- Write the text of the state document. -/
  | write (text : String)
  deriving Repr

/-- What the outside replies.  The reason for a failed exchange is a text. -/
inductive OutsideReply
  | answer (result : Except String Answer)
  | response (result : Except String UpdateResponse)
  | written (done : Bool)

/-! ## 2. Dialogues -/

/-- Replies that are left, with the time at which each came, and what was asked in vain. -/
structure Dialogue where
  clock : Timestamp
  replies : List (Timestamp × OutsideReply)
  unanswered : Option OutsideRequest := none
  /-- The state that was written last. -/
  written : State

namespace Dialogue

/-- Asks for a reply. -/
def ask (d : Dialogue) (r : OutsideRequest) : Option OutsideReply × Dialogue :=
  match d.unanswered, d.replies with
  | some _, _ => (none, d)
  | none, [] => (none, { d with unanswered := some r })
  | none, (time, reply) :: rest => (some reply, { d with clock := time, replies := rest })

/-! ## 3. The outside -/

/-- Asks a server. -/
def query (server : String) (zone : DomainName) (kind : RecordKind) (d : Dialogue) :
    Except Error MultiSigner.Answer × Dialogue :=
  match d.ask (.query server zone kind) with
  | (some (.answer (.ok a)), d) => (.ok a, d)
  | (some (.answer (.error reason)), d) => (.error (.transport server reason), d)
  | (_, d) => (.error .io, d)

/-- Sends an update. -/
def exchange : Exchange Dialogue := fun server key message d =>
  match d.ask (.update server key message) with
  | (some (.response (.ok r)), d) => (.ok r, d)
  | (some (.response (.error reason)), d) => (.error (.transport server reason), d)
  | (_, d) => (.error .io, d)

/-- Writes the state document, if it says something new. -/
def save (s : State) (d : Dialogue) : Except Error Unit × Dialogue :=
  match (StateStore.mk s d.written).pending with
  | .error e => (.error e, d)
  | .ok none => (.ok (), d)
  | .ok (some text) =>
    match d.ask (.write text) with
    | (some (.written true), d) => (.ok (), { d with written := s })
    | (_, d) => (.error .io, d)

/-- A dialogue as the outside of operations. -/
def outside : Outside Dialogue where
  now d := d.clock
  query := query
  updater := SignedUpdate.updaters exchange
  save := save

theorem ask_nil {d : Dialogue} (hu : d.unanswered = none) (hr : d.replies = [])
    (r : OutsideRequest) : (d.ask r).2.unanswered = some r := by
  simp only [ask, hu, hr]

end Dialogue
end MultiSigner
