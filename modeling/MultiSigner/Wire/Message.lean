import MultiSigner.Update.Message
import MultiSigner.View
import MultiSigner.Wire.Input
import MultiSigner.Wire.Output
/-!
# Queries, updates and responses

A message begins with a header; then follow a question and records in three sections.  Updates keep
their entries in the section that otherwise is for name servers, and ask about the start of the zone.

## Contents

1. The header.
2. Queries and updates.
3. Responses.
-/

namespace MultiSigner.Wire

/-! ## 1. The header -/

/-- The front of a message. -/
structure Header where
  id : UInt16
  flags : Nat
  questions : Nat
  answers : Nat := 0
  authorities : Nat := 0
  additionals : Nat := 0
  deriving Repr, DecidableEq

namespace Header

/-- The flag of a query that asks the server to look elsewhere if it has to. -/
def recursionDesired : Nat := 0x0100

/-- The flags of an update. -/
def update : Nat := 0x2800

/-- The response code. -/
def code (h : Header) : Nat :=
  h.flags % 16

/-- The numbers in their order. -/
def fields (h : Header) : List Nat :=
  [h.id.toNat, h.flags, h.questions, h.answers, h.authorities, h.additionals]

/-- Reads a header. -/
def read : Input Header := do
  let id ← Input.number 2
  let flags ← Input.number 2
  let questions ← Input.number 2
  let answers ← Input.number 2
  let authorities ← Input.number 2
  return ⟨UInt16.ofNat id, flags, questions, answers, authorities, ← Input.number 2⟩

end Header

/-- Writes a header. -/
def Output.header (o : Output) (h : Header) : Output :=
  h.fields.foldl (fun o n => o.number 2 n) o

/-! ## 2. Queries and updates -/

/-- The message that asks for the records of a kind. -/
def query (id : UInt16) (zone : DomainName) (kind : RecordKind) : List UInt8 :=
  (((({} : Output).header ⟨id, Header.recursionDesired, 1, 0, 0, 0⟩).question zone
    kind.type)).bytes.toList

/-- Writes an entry of an update. -/
def Output.entry (o : Output) (e : UpdateEntry) : Output :=
  o.record e.owner e.kind.type e.recordClass e.ttl e.data

/-- The message of an update. -/
def update (id : UInt16) (m : UpdateMessage) : List UInt8 :=
  let front := (({} : Output).header ⟨id, Header.update, 1, 0, m.entries.length, 0⟩).question m.zone
    RecordKind.soa.type
  (m.entries.foldl Output.entry front).bytes.toList

/-! ## 3. Responses -/

/-- A response, with what is known of the data of its records. -/
structure Response where
  header : Header
  answers : List (Input.Entry × Option RecordData)
  authorities : List (Input.Entry × Option RecordData)
  additionals : List (Input.Entry × Option RecordData)
  deriving Repr

namespace Response

/-- Reads a record with its data. -/
def readRecord : Input (Input.Entry × Option RecordData) := do
  let e ← Input.entry
  let after ← Input.position
  let data ← Input.data e
  set after
  return (e, data)

/-- Reads a response. -/
def read : Input Response := do
  let h ← Header.read
  let _ ← Input.times Input.question h.questions
  let answers ← Input.times readRecord h.answers
  let authorities ← Input.times readRecord h.authorities
  return ⟨h, answers, authorities, ← Input.times readRecord h.additionals⟩

/-- The response with the given bytes. -/
def ofBytes? (bytes : Array UInt8) : Option Response :=
  (Input.from? read bytes 0).map Prod.fst

/-- A record of the zone, if it is of the kind. -/
def recordOf? (zone : DomainName) (kind : RecordKind)
    (r : Input.Entry × Option RecordData) : Option Record :=
  match r.2 with
  | none => none
  | some data => if r.1.owner == zone && data.kind == kind then some ⟨r.1.ttl, data⟩ else none

/-- The records of a kind.  Name servers are also taken from the section of the parent. -/
def answer (r : Response) (zone : DomainName) (kind : RecordKind) : Answer :=
  let records := if kind = .ns then r.answers ++ r.authorities else r.answers
  ⟨records.filterMap (recordOf? zone kind)⟩

/-- How a response is shown, but for its signature.  This is a text of our own, in one line; it stands
for a dump of the whole message, with its flags and all its records. -/
def text (r : Response) : String :=
  s!"response {r.header.id} with code {r.header.code}, {r.answers.length} answers, "
    ++ s!"{r.authorities.length} authorities and {r.additionals.length} additional records"

end Response
end MultiSigner.Wire
