import MultiSigner.Event
import MultiSigner.Report
import MultiSigner.Scheduler
import MultiSigner.Transcript
import MultiSigner.Update.Change
import MultiSigner.View
/-!
# Operations

An operation works on a session, which holds the state document and everything that an operation
leaves behind: lines, events, updates and tasks.  What it can ask of the outside is described by
`Outside`; the outside has a state of its own, of any type, which queries and updates may change.

A failing operation leaves what it did before.

## Contents

1. The outside.
2. Sessions.
3. Operations and their steps.
-/

namespace MultiSigner

/-! ## 1. The outside -/

/-- How an update went. -/
structure UpdateReply (ω : Type) where
  lines : List String
  outcome : Except Error Unit
  world : ω

/-- A way to change the records of a signer. -/
structure Updater (ω : Type) where
  /-- Whether it can be used at all. -/
  check : Except Error Unit
  apply : Update → ω → UpdateReply ω

/-- What operations ask of the outside. -/
structure Outside (ω : Type) where
  now : ω → Timestamp
  /-- Asks a server for the records of a kind at the zone's apex. -/
  query : String → DomainName → RecordKind → ω → Except Error Answer × ω
  updater : UpdaterKind → Option (Updater ω)
  /-- Writes the state document where it outlives the process. -/
  save : State → ω → Except Error Unit × ω

/-- The updater of a kind, if there is one and it can be used. -/
def Outside.updaterFor {ω : Type} (o : Outside ω) (kind : UpdaterKind) :
    Except Error (Updater ω) :=
  match o.updater kind with
  | none => .error (.updaterUnsupported kind)
  | some u => u.check.map fun _ => u

/-! ## 2. Sessions -/

/-- An update that was sent, and what came of it. -/
structure Delivery where
  update : Update
  outcome : Except Error Unit

/-- Whether the update was accepted. -/
def Delivery.accepted (d : Delivery) : Bool :=
  match d.outcome with
  | .ok _ => true
  | .error _ => false

/-- A state document with all that operations leave behind. -/
structure Session (ω : Type) where
  state : State
  world : ω
  scheduler : Scheduler
  transcript : Transcript := .empty
  events : List Event := []
  deliveries : List Delivery := []

/-! ## 3. Operations -/

/-- Something that is done in a session and may fail. -/
abbrev Operation (ω : Type) :=
  ReaderT (Outside ω) (ExceptT Error (StateM (Session ω)))

namespace Operation

variable {ω α : Type}

/-- Does an operation. -/
def perform (op : Operation ω α) (o : Outside ω) (s : Session ω) : Except Error α × Session ω :=
  (op.run o).run.run s

instance : MonadLift (Except Error) (Operation ω) :=
  ⟨fun r => match r with
    | .ok a => pure a
    | .error e => throw e⟩

/-- Does an operation and goes on if it fails. -/
def attempt (op : Operation ω α) : Operation ω (Except Error α) := fun o s =>
  (Except.ok (op.perform o s).1, (op.perform o s).2)

/-- The state document. -/
def state : Operation ω State := do
  return (← get).state

/-- Changes the state document. -/
def modifyState (f : State → State) : Operation ω Unit :=
  modify fun s => { s with state := f s.state }

/-- Adds a line to the transcript. -/
def line (text : String) : Operation ω Unit :=
  modify fun s => { s with transcript := s.transcript.line text }

/-- Adds lines to the transcript. -/
def lines (texts : List String) : Operation ω Unit :=
  modify fun s => { s with transcript := s.transcript.append (Transcript.mk texts) }

/-- Adds the lines of a report, and fails if it does. -/
def tell (r : Report String) : Operation ω Unit := do
  lines r.items
  match r.failure? with
  | none => pure ()
  | some e => throw e

/-- Tells observers. -/
def publish (e : Event) : Operation ω Unit :=
  modify fun s => { s with events := s.events ++ [e] }

/-- Tells observers the status of a group. -/
def publishStatus (zone : DomainName) : Operation ω Unit := do
  match Event.status? (← state) zone with
  | some e => publish e
  | none => pure ()

/-- The time. -/
def now : Operation ω Timestamp := do
  return (← read).now (← get).world

/-- Asks a server. -/
def query (server : String) (zone : DomainName) (kind : RecordKind) : Operation ω Answer := do
  let s ← get
  let (answer, world) := (← read).query server zone kind s.world
  set { s with world := world }
  answer

/-- Sends an update. -/
def deliver (u : Update) : Operation ω Unit := do
  let updater ← (← read).updaterFor u.target.kind
  let s ← get
  let reply := updater.apply u s.world
  set { s with
    world := reply.world
    transcript := s.transcript.append (Transcript.mk reply.lines)
    deliveries := s.deliveries ++ [Delivery.mk u reply.outcome] }
  reply.outcome

/-- Saves the state document. -/
def save : Operation ω Unit := do
  let s ← get
  let (outcome, world) := (← read).save s.state s.world
  set { s with world := world }
  outcome

end Operation
end MultiSigner
