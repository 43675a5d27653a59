import MultiSigner.Digest.Block
import MultiSigner.Record.Type
/-!
# Requests to the parent

The data of CSYNC records, which ask the parent of a zone to take over name servers and their
addresses.
-/

namespace MultiSigner

/-- A request to the parent of a zone. -/
structure Csync where
  serial : UInt32
  /-- The parent does not wait for a confirmation. -/
  immediate : Bool
  /-- The parent waits for a zone of the given serial. -/
  soaMinimum : Bool
  types : List RecordType
  deriving Repr, DecidableEq

namespace Csync

/-- The request to take over name servers and addresses at once. -/
def delegation (serial : UInt32) : Csync :=
  ⟨serial, true, true, [.a, .ns, .aaaa]⟩

/-- The flags field. -/
def flags (c : Csync) : Nat :=
  (if c.immediate then 1 else 0) + (if c.soaMinimum then 2 else 0)

/-- The text of a record's data. -/
def text (c : Csync) : String :=
  c.types.foldl (fun s t => s ++ " " ++ t.name) s!"{c.serial} {c.flags}"

/-- A byte of a bitmap, which stands for eight numbers, the smallest one first. -/
def bitmapByte (numbers : List Nat) (index : Nat) : UInt8 :=
  UInt8.ofNat (numbers.foldl (fun b n => if n / 8 = index then b ||| (0x80 >>> (n % 8)) else b) 0)

/-- The types that share their upper byte, as a bitmap with its length. -/
def bitmapWindow (numbers : List Nat) (upper : Nat) : List UInt8 :=
  match (numbers.filter fun n => n / 256 = upper).map (· % 256) with
  | [] => []
  | lower =>
    let count := lower.foldl max 0 / 8 + 1
    UInt8.ofNat upper :: UInt8.ofNat count :: (List.range count).map (bitmapByte lower)

/-- A set of types as bitmaps. -/
def typeBitmap (types : List RecordType) : List UInt8 :=
  (List.range 256).flatMap (bitmapWindow (types.map fun t => t.number.toNat))

/-- The data of a record as bytes. -/
def wire (c : Csync) : List UInt8 :=
  Digest.bytesOf 4 c.serial.toNat ++ Digest.bytesOf 2 c.flags ++ typeBitmap c.types

end Csync
end MultiSigner
