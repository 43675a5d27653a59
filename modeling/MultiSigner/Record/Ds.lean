import MultiSigner.Digest.Sha1
import MultiSigner.Digest.Sha2
import MultiSigner.Record.Dnskey
import MultiSigner.Text.Hex
/-!
# References to keys

The data of DS and CDS records: a digest of a key that the parent of a zone publishes.
`Dnskey.delegation` makes one, `Dnskey.isReferredBy` compares one with a key.
-/

namespace MultiSigner

/-- How a key is digested. -/
inductive DigestType
  | sha1
  | sha256
  | gost
  | sha384
  | ed25519
  | sha512
  deriving Repr, DecidableEq

namespace DigestType

/-- The number of a digest type. -/
def number : DigestType → Nat
  | sha1 => 1
  | sha256 => 2
  | gost => 3
  | sha384 => 4
  | ed25519 => 5
  | sha512 => 255

/-- The digest type of the given number. -/
def ofNumber? (n : Nat) : Option DigestType :=
  [sha1, sha256, gost, sha384, ed25519, sha512].find? fun t => t.number == n

/-- The digest of a message, for the types that can be computed. -/
def digest? (t : DigestType) (message : List UInt8) : Option (List UInt8) :=
  match t with
  | sha1 => some (Digest.Sha1.digest message)
  | sha256 => some (Digest.Sha2.sha256 message)
  | sha384 => some (Digest.Sha2.sha384 message)
  | sha512 => some (Digest.Sha2.sha512 message)
  | gost => none
  | ed25519 => none

theorem ofNumber?_number (t : DigestType) : ofNumber? t.number = some t := by
  cases t <;> decide

end DigestType

/-- A reference to a key. -/
structure Ds where
  keyTag : UInt16
  algorithm : UInt8
  digestType : DigestType
  digest : List UInt8
  deriving Repr, DecidableEq

/-- The text of a record's data. -/
def Ds.text (d : Ds) : String :=
  s!"{d.keyTag} {d.algorithm} {d.digestType.number} " ++ String.ofList (Hex.encodeUpper d.digest)

/-- The data of a record as bytes. -/
def Ds.wire (d : Ds) : List UInt8 :=
  Digest.bytesOf 2 d.keyTag.toNat ++ d.algorithm :: UInt8.ofNat d.digestType.number :: d.digest

namespace Dnskey

/-- The reference to a key of a zone. -/
def delegation (k : Dnskey) (owner : DomainName) (t : DigestType) : Except Error Ds := do
  let message := owner.wire ++ k.wire
  if 65535 < message.length then throw .dns
  match t.digest? message with
  | none => throw .dns
  | some digest => return ⟨← k.keyTag, k.algorithm, t, digest⟩

/-- Whether a reference is the one to this key, by the reference's own digest type. -/
def isReferredBy (k : Dnskey) (owner : DomainName) (d : Ds) : Bool :=
  match k.delegation owner d.digestType with
  | .ok e => e == d
  | .error _ => false

end Dnskey
end MultiSigner
