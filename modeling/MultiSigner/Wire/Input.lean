import MultiSigner.Record.Data
/-!
# Reading messages

A message is read from a position on; nothing is read beyond its end.  A reference leads to an
earlier place of the message, so that names end; a name that takes more than `Input.longest` steps
is refused all the same.

## Contents

1. Bytes.
2. Names.
3. Records and their data.
-/

namespace MultiSigner.Wire

/-! ## 1. Bytes -/

/-- Reads something from a message, from a position on; gives the position after it. -/
abbrev Input (α : Type) := ReaderT (Array UInt8) (StateT Nat Option) α

namespace Input

/-- Reads something from a whole message, from a position on. -/
def from? {α : Type} (r : Input α) (message : Array UInt8) (position : Nat) : Option (α × Nat) :=
  (r.run message).run position

/-- The position. -/
def position : Input Nat := get

/-- Reads a byte. -/
def byte : Input UInt8 := do
  let p ← get
  match (← read)[p]? with
  | some b => set (p + 1); return b
  | none => failure

/-- Reads bytes. -/
def bytes : Nat → Input (List UInt8)
  | 0 => pure []
  | n + 1 => do
    let b ← byte
    return b :: (← bytes n)

/-- Reads a number, the most significant of its `count` bytes first. -/
def number (count : Nat) : Input Nat := do
  return Digest.numberOf (← bytes count)

/-! ## 2. Names -/

/-- The number of steps that a name may take. -/
def longest : Nat := 255

/-- Reads labels, where references lead to places before `limit`. -/
def labels : Nat → Nat → Input (List (List UInt8))
  | 0, _ => failure
  | steps + 1, limit => do
    let b ← byte
    if b = 0 then return []
    else if b < 64 then
      let l ← bytes b.toNat
      return l :: (← labels steps limit)
    else if 192 ≤ b then
      let next ← byte
      let place := (b.toNat - 192) * 256 + next.toNat
      if place < limit then
        let back ← get
        set place
        let rest ← labels steps place
        set back
        return rest
      else failure
    else failure

/-- Reads a name. -/
def name : Input DomainName := do
  return DomainName.ofLabels (← labels longest (← position)) true

/-! ## 3. Records -/

/-- A record as it stands in a message. -/
structure Entry where
  /-- Where it begins. -/
  start : Nat
  owner : DomainName
  type : RecordType
  ttl : UInt32
  /-- Where its data begin, and where they end. -/
  dataStart : Nat
  dataEnd : Nat
  deriving Repr, DecidableEq

/-- Reads a record without looking at its data. -/
def entry : Input Entry := do
  let start ← position
  let owner ← name
  let type ← number 2
  let _ ← number 2
  let ttl ← number 4
  let length ← number 2
  let dataStart ← position
  let _ ← bytes length
  return ⟨start, owner, ⟨UInt16.ofNat type⟩, UInt32.ofNat ttl, dataStart, dataStart + length⟩

/-- Reads a question. -/
def question : Input Unit := do
  let _ ← name
  let _ ← number 4

/-- Reads something a number of times. -/
def times {α : Type} (r : Input α) : Nat → Input (List α)
  | 0 => pure []
  | n + 1 => do
    let a ← r
    return a :: (← times r n)

/-- Reads a key up to a position. -/
def key (stop : Nat) : Input Dnskey := do
  let flags ← number 2
  let protocol ← number 1
  if protocol != Dnskey.protocol then failure
  let algorithm ← byte
  return Dnskey.ofFlags (UInt16.ofNat flags) algorithm (← bytes (stop - (← position)))

/-- Reads a reference to a key up to a position. -/
def ds (stop : Nat) : Input Ds := do
  let tag ← number 2
  let algorithm ← byte
  match DigestType.ofNumber? (← number 1) with
  | some t => return ⟨UInt16.ofNat tag, algorithm, t, ← bytes (stop - (← position))⟩
  | none => failure

/-- Reads the serial of the start of a zone. -/
def serial : Input UInt32 := do
  let _ ← name
  let _ ← name
  let serial ← number 4
  let _ ← bytes 16
  return UInt32.ofNat serial

/-- Reads the data of a record, without looking where they end.  Data that signers are not asked for
are left unread. -/
def openData (e : Entry) : Input (Option RecordData) := do
  match RecordKind.ofType? e.type with
  | some .ns => return some (.ns (← name))
  | some .soa => return some (.soa (← serial))
  | some .dnskey => return some (.dnskey (← key e.dataEnd))
  | some .cdnskey => return some (.cdnskey (← key e.dataEnd))
  | some .ds => return some (.ds (← ds e.dataEnd))
  | some .cds => return some (.cds (← ds e.dataEnd))
  | some .csync => return none
  | none => return none

/-- Reads the data of a record, which have to fill their place. -/
def data (e : Entry) : Input (Option RecordData) := do
  if e.dataStart = e.dataEnd then return none
  set e.dataStart
  match ← openData e with
  | none => return none
  | some d => if (← position) = e.dataEnd then return some d else failure

end Input
end MultiSigner.Wire
