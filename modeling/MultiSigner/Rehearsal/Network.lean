import MultiSigner.Operation.Basic
/-!
# A network in memory

Servers that hold lists of records, for trying out operations.  A query returns the records of its
kind in their order; an update changes them as `ChangeSet.applyTo` says.  Servers may be missing,
answer nothing about some kinds of records, or reject updates.

Together with a clock and a saved state document, this is an outside for operations.

## Contents

1. Servers.
2. Queries and updates.
3. The outside.
-/

namespace MultiSigner.Rehearsal

/-! ## 1. Servers -/

/-- The servers that can be reached, and how they fail. -/
structure Network where
  servers : OrderedMap String (List Record) := .empty
  /-- The response code of servers that reject updates. -/
  rejecting : OrderedMap String String := .empty
  /-- The kinds of records that servers give no answer about. -/
  muted : OrderedMap String (List RecordKind) := .empty

namespace Network

/-- Lets a server have other records. -/
def serve (n : Network) (server : String) (records : List Record) : Network :=
  { n with servers := n.servers.insert server records }

/-- The records of a server. -/
def records? (n : Network) (server : String) : Option (List Record) :=
  n.servers.get? server

/-- Lets a server have more records. -/
def add (n : Network) (server : String) (records : List Record) : Network :=
  n.serve server ((n.records? server).getD [] ++ records)

/-- Takes a server off the network. -/
def unplug (n : Network) (server : String) : Network :=
  { n with servers := n.servers.erase server }

/-- Lets a server reject updates, or no longer. -/
def reject (n : Network) (server : String) : Option String → Network
  | some rcode => { n with rejecting := n.rejecting.insert server rcode }
  | none => { n with rejecting := n.rejecting.erase server }

/-- Lets a server give no answer about some kinds of records. -/
def mute (n : Network) (server : String) (kinds : List RecordKind) : Network :=
  { n with muted := n.muted.insert server kinds }

/-! ## 2. Queries and updates -/

/-- Asks a server. -/
def query (n : Network) (server : String) (kind : RecordKind) : Except Error Answer :=
  match n.records? server with
  | none => .error (.transport server "connection refused")
  | some records =>
    if ((n.muted.get? server).getD []).contains kind then .error (.transport server "timed out")
    else .ok ⟨records.filter fun r => r.kind == kind⟩

/-- Changes the records of a server. -/
def update (n : Network) (u : Update) : Except Error Network :=
  match n.records? u.target.address with
  | none => .error (.transport u.target.address "connection refused")
  | some records =>
    match n.rejecting.get? u.target.address with
    | some rcode => .error (.updateRejected u.target.signer rcode)
    | none => .ok (n.serve u.target.address (u.changes.applyTo records))

end Network

/-! ## 3. The outside -/

/-- A network, a clock, and where the state document is saved. -/
structure World where
  network : Network
  clock : Timestamp
  saved : State
  savesFail : Bool := false

/-- The updater that changes the network. -/
def updater : Updater World where
  check := .ok ()
  apply u w :=
    match w.network.update u with
    | .ok network => ⟨[], .ok (), { w with network := network }⟩
    | .error e => ⟨[], .error e, w⟩

/-- The outside, in which the kinds of updates that `usable` names change the network. -/
def outside (usable : List UpdaterKind) : Outside World where
  now w := w.clock
  query server _ kind w := (w.network.query server kind, w)
  updater kind := if usable.contains kind then some updater else none
  save s w := if w.savesFail then (.error .io, w) else (.ok (), { w with saved := s })

end MultiSigner.Rehearsal
