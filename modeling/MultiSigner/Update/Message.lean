import MultiSigner.Error
import MultiSigner.Update.Change
/-!
# Update messages

A change set is sent as one flat list of entries, of which the class says what is done: an entry of
class `any` takes out the records of its type, one of class `none` the records with its data, and one
of class `internet` puts a record in.  The entries are processed in their order, so whole sets are
taken out first and records are put in last; a set can thus be replaced by one message.

`UpdateMessage.process` is what a server does with a message.

Main statements: `UpdateMessage.ofChanges_zone` (the message is for the zone),
`UpdateEntry.dropRecord_owner` and `UpdateEntry.put_owner` (entries are about the zone's apex).

## Contents

1. Entries and messages.
2. The message of a change set.
3. What a server does.
4. How a message is shown.
-/

namespace MultiSigner

/-! ## 1. Entries and messages -/

/-- An entry of an update. -/
structure UpdateEntry where
  owner : DomainName
  kind : RecordKind
  recordClass : RecordClass
  ttl : UInt32
  data : Option RecordData
  deriving Repr

/-- An update of a zone. -/
structure UpdateMessage where
  zone : DomainName
  entries : List UpdateEntry
  deriving Repr

namespace UpdateEntry

/-! ## 2. The message of a change set -/

/-- The data of a record, if it can be part of an update.  Servers keep the serial themselves. -/
def dataOf (r : Record) : Except Error RecordData :=
  match r.data with
  | .soa _ => .error (.malformedRecord "SOA")
  | data => .ok data

/-- Takes out the records of a kind. -/
def dropKind (zone : DomainName) (kind : RecordKind) : UpdateEntry :=
  ⟨zone, kind, .any, 0, none⟩

/-- Takes out a record. -/
def dropRecord (zone : DomainName) (r : Record) : Except Error UpdateEntry :=
  (dataOf r).map fun data => ⟨zone, r.kind, .none, 0, some data⟩

/-- Puts in a record. -/
def put (zone : DomainName) (r : Record) : Except Error UpdateEntry :=
  (dataOf r).map fun data => ⟨zone, r.kind, .internet, r.ttl, some data⟩

theorem dropRecord_owner {zone : DomainName} {r : Record} {e : UpdateEntry}
    (h : dropRecord zone r = .ok e) : e.owner = zone := by
  unfold dropRecord at h
  cases hd : dataOf r with
  | error _ => rw [hd] at h; cases h
  | ok _ => rw [hd] at h; cases h; rfl

theorem put_owner {zone : DomainName} {r : Record} {e : UpdateEntry}
    (h : put zone r = .ok e) : e.owner = zone := by
  unfold put at h
  cases hd : dataOf r with
  | error _ => rw [hd] at h; cases h
  | ok _ => rw [hd] at h; cases h; rfl

end UpdateEntry

namespace UpdateMessage

/-- The message for the changes of a zone. -/
def ofChanges (zone : DomainName) (c : ChangeSet) : Except Error UpdateMessage := do
  let drops ← c.removes.mapM (UpdateEntry.dropRecord zone)
  let puts ← c.inserts.mapM (UpdateEntry.put zone)
  return ⟨zone, c.removeKinds.map (UpdateEntry.dropKind zone) ++ drops ++ puts⟩

theorem ofChanges_zone {zone : DomainName} {c : ChangeSet} {m : UpdateMessage}
    (h : ofChanges zone c = .ok m) : m.zone = zone := by
  unfold ofChanges at h
  cases hd : c.removes.mapM (UpdateEntry.dropRecord zone) with
  | error _ => rw [hd] at h; cases h
  | ok drops =>
    cases hp : c.inserts.mapM (UpdateEntry.put zone) with
    | error _ => rw [hd, hp] at h; cases h
    | ok puts => rw [hd, hp] at h; cases h; rfl

/-! ## 3. What a server does -/

/-- Processes an entry, for the records at a name.  Single records are found by their data alone, as
the entries of a change set are of the kind of their data. -/
def processEntry (owner : DomainName) (records : List Record) (e : UpdateEntry) : List Record :=
  if e.owner == owner then
    match e.recordClass, e.data with
    | .any, _ => records.filter fun r => r.kind != e.kind
    | .none, some data => records.filter fun r => !(r.data == data)
    | .internet, some data => ChangeSet.addRecord records ⟨e.ttl, data⟩
    | _, none => records
  else records

/-- The records at the apex of the zone after the update. -/
def process (m : UpdateMessage) (records : List Record) : List Record :=
  m.entries.foldl (processEntry m.zone) records

/-! ## 4. Showing messages -/

/-- How an entry is shown. -/
def entryText (e : UpdateEntry) : String :=
  match e.recordClass, e.data with
  | .any, _ => s!"delete {e.owner.display} {e.kind.name}"
  | .none, some data => s!"delete {e.owner.display} {data.text}"
  | .internet, some data => s!"add {e.owner.display} {e.ttl} {data.text}"
  | _, none => s!"keep {e.owner.display} {e.kind.name}"

/-- How a message is shown.  This is a text of our own, in one line; it stands for a dump of the
whole message before it is signed, with its header and all its sections. -/
def text (m : UpdateMessage) : String :=
  s!"update of {m.zone.display}: " ++ String.intercalate "; " (m.entries.map entryText)

end UpdateMessage
end MultiSigner
