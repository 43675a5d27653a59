import MultiSigner.Record.Data
import MultiSigner.UpdaterKind
/-!
# Changes to a zone

A change set takes out whole record sets and single records and puts records in.  `ChangeSet.applyTo`
is what it means for the records of a server, in this order: sets are taken out, then records, then
each new record is added unless its data is there.

## Contents

1. Change sets.
2. What they do.
3. Where they are sent, and as whom.
-/

namespace MultiSigner

/-! ## 1. Change sets -/

/-- Changes to the records at the apex of a zone. -/
structure ChangeSet where
  inserts : List Record := []
  removes : List Record := []
  removeKinds : List RecordKind := []
  deriving Repr

namespace ChangeSet

/-- Whether there is nothing to change. -/
def isEmpty (c : ChangeSet) : Bool :=
  c.inserts.isEmpty && c.removes.isEmpty && c.removeKinds.isEmpty

/-! ## 2. What they do -/

/-- Adds a record unless one with its data is there. -/
def addRecord (records : List Record) (r : Record) : List Record :=
  if records.any fun s => s.data == r.data then records else records ++ [r]

/-- The records of a server after the changes. -/
def applyTo (c : ChangeSet) (records : List Record) : List Record :=
  let kept := records.filter fun r => !c.removeKinds.contains r.kind
  let kept := kept.filter fun r => !c.removes.any fun s => s.data == r.data
  c.inserts.foldl addRecord kept

end ChangeSet

/-! ## 3. Targets -/

/-- What authenticates an update. -/
inductive Credential
  /-- A key that signs messages, and its secret. -/
  | tsig (name : String) (secret : List UInt8)
  /-- A token of a provider. -/
  | token (name text : String)
  deriving Repr, DecidableEq

namespace Credential

/-- The name of a credential. -/
def name : Credential → String
  | tsig name _ => name
  | token name _ => name

/-- How a credential is shown, without its secret. -/
def label : Credential → String
  | tsig name _ => s!"Tsig({name})"
  | token name _ => s!"Token({name})"

end Credential

/-- A signer that can be sent updates. -/
structure UpdateTarget where
  signer : String
  kind : UpdaterKind
  /-- Host and port. -/
  address : String
  credential : Credential
  /-- Whether the messages are reported. -/
  debug : Bool
  deriving Repr, DecidableEq

/-- Changes to a zone, and the signer at which they are made. -/
structure Update where
  zone : DomainName
  target : UpdateTarget
  changes : ChangeSet
  deriving Repr

end MultiSigner
