import MultiSigner.Record.Data
/-!
# Writing messages

Messages are written from front to back.  A name, or the end of a name, that was written before is
not written again: two bytes refer to the place where it stands.  Places far from the front can not
be referred to.

Main statement: `Output.name_cons` (what is written for a name that begins with a label:
a reference if it stands somewhere already, else the label and then the rest of the name).

## Contents

1. Bytes.
2. Names.
3. Records.
-/

namespace MultiSigner.Wire

/-! ## 1. Bytes -/

/-- What was written of a message, and where the names stand that can be referred to. -/
structure Output where
  bytes : Array UInt8 := #[]
  names : List (List (List UInt8) × Nat) := []

namespace Output

/-- Writes bytes. -/
def put (o : Output) (bytes : List UInt8) : Output :=
  { o with bytes := o.bytes ++ bytes }

/-- Writes a number as `count` bytes, the most significant one first. -/
def number (o : Output) (count n : Nat) : Output :=
  o.put (Digest.bytesOf count n)

/-! ## 2. Names -/

/-- The first place that can not be referred to. -/
def farthest : Nat := 0x3fff

/-- The mark of a reference. -/
def reference : Nat := 0xc000

/-- Notes that a name stands at the place that is written next, unless that name ends too far from
the front. -/
def note (o : Output) (labels : List (List UInt8)) : Output :=
  if o.bytes.size + (DomainName.mk labels true).size < farthest then
    { o with names := o.names ++ [(labels, o.bytes.size)] }
  else o

/-- Where a name stands. -/
def place? (o : Output) (labels : List (List UInt8)) : Option Nat :=
  (o.names.find? fun p => p.1 == labels).map Prod.snd

/-- Writes a label. -/
def label (o : Output) (l : List UInt8) : Output :=
  o.put (UInt8.ofNat l.length :: l)

/-- Writes a name. -/
def name (o : Output) : List (List UInt8) → Output
  | [] => o.put [0]
  | l :: rest =>
    match o.place? (l :: rest) with
    | some place => o.number 2 (reference + place)
    | none => name ((o.note (l :: rest)).label l) rest

theorem name_cons (o : Output) (l : List UInt8) (rest : List (List UInt8)) :
    o.name (l :: rest) = match o.place? (l :: rest) with
      | some place => o.number 2 (reference + place)
      | none => ((o.note (l :: rest)).label l).name rest := by
  rw [name]

/-! ## 3. Records -/

/-- Writes something with the number of its bytes before it, which is found by writing it once in
vain. -/
def sized (o : Output) (write : Output → Output) : Output :=
  let trial := write (o.number 2 0)
  write (o.number 2 (trial.bytes.size - (o.bytes.size + 2)))

/-- Writes the data of a record.  Of the start of a zone only the serial is known. -/
def data (o : Output) : RecordData → Output
  | .dnskey key => o.put key.wire
  | .cdnskey key => o.put key.wire
  | .ds ds => o.put ds.wire
  | .cds ds => o.put ds.wire
  | .ns n => o.name n.labels
  | .soa serial => ((o.put [0, 0]).number 4 serial.toNat).put (List.replicate 16 0)
  | .csync csync => o.put csync.wire

/-- Writes what stands before the data of a record. -/
def recordHead (o : Output) (owner : DomainName) (type : RecordType) (recordClass : RecordClass)
    (ttl : UInt32) : Output :=
  (((o.name owner.labels).number 2 type.number.toNat).number 2 recordClass.number).number 4
    ttl.toNat

/-- Writes a record, of which the data may be left out. -/
def record (o : Output) (owner : DomainName) (type : RecordType) (recordClass : RecordClass)
    (ttl : UInt32) (data : Option RecordData) : Output :=
  (o.recordHead owner type recordClass ttl).sized fun o =>
    match data with
    | none => o
    | some d => o.data d

/-- Writes a question. -/
def question (o : Output) (name : DomainName) (type : RecordType) : Output :=
  ((o.name name.labels).number 2 type.number.toNat).number 2 RecordClass.internet.number

end Output
end MultiSigner.Wire
