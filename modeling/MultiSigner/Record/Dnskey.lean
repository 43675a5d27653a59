import MultiSigner.Digest.Block
import MultiSigner.Error
import MultiSigner.Text.Base64
/-!
# Public keys of zones

The data of DNSKEY and CDNSKEY records.  A key has one of two roles: it signs the zone, or it signs
the other keys and the parent refers to it.

Keys are told apart by their fingerprint, which holds the algorithm and the public key but not the
flags.

## Contents

1. Keys and their flags.
2. Texts: the record, and the fingerprint.
3. The form on the wire and the key tag.
-/

namespace MultiSigner

/-! ## 1. Keys and their flags -/

/-- A public key, with the flags that have a meaning. -/
structure Dnskey where
  zoneKey : Bool
  secureEntryPoint : Bool
  revoked : Bool
  algorithm : UInt8
  publicKey : List UInt8
  deriving Repr, DecidableEq

/-- What a key is there for. -/
inductive KeyRole
  /-- It signs the records of the zone. -/
  | zoneSigning
  /-- It signs the keys, and the parent refers to it. -/
  | keySigning
  | other
  deriving Repr, DecidableEq

namespace Dnskey

/-- The key with a flags field, of which only three bits have a meaning. -/
def ofFlags (flags : UInt16) (algorithm : UInt8) (publicKey : List UInt8) : Dnskey :=
  ⟨flags &&& 0x100 != 0, flags &&& 0x1 != 0, flags &&& 0x80 != 0, algorithm, publicKey⟩

/-- The flags field of a key. -/
def flags (k : Dnskey) : Nat :=
  (if k.zoneKey then 0x100 else 0) + (if k.revoked then 0x80 else 0)
    + (if k.secureEntryPoint then 1 else 0)

/-- The role of a key.  Whether it is revoked makes no difference. -/
def role (k : Dnskey) : KeyRole :=
  if k.zoneKey then
    if k.secureEntryPoint then .keySigning else .zoneSigning
  else .other

/-- Whether two keys have the same public key, whatever their flags and algorithms. -/
def sameKey (k l : Dnskey) : Bool :=
  k.publicKey == l.publicKey

/-! ## 2. Texts -/

/-- The only protocol number of keys. -/
def protocol : Nat := 3

/-- The public key in base64. -/
def publicKeyText (k : Dnskey) : String :=
  Base64.encodeString k.publicKey

/-- What tells keys apart: protocol, algorithm and public key. -/
def fingerprint (k : Dnskey) : String :=
  s!"{protocol}-{k.algorithm}-{k.publicKeyText}"

/-- The text of a record's data. -/
def text (k : Dnskey) : String :=
  s!"{k.flags} {protocol} {k.algorithm} {k.publicKeyText}"

/-- The key whose public key is given in base64. -/
def ofBase64 (flags : UInt16) (algorithm : UInt8) (publicKey : String) : Except Error Dnskey :=
  match Base64.decodeString? publicKey with
  | some bytes => .ok (ofFlags flags algorithm bytes)
  | none => .error (.malformedRecord "DNSKEY")

/-! ## 3. The wire -/

/-- The data of a record as bytes. -/
def wire (k : Dnskey) : List UInt8 :=
  Digest.bytesOf 2 k.flags ++ UInt8.ofNat protocol :: k.algorithm :: k.publicKey

theorem length_wire (k : Dnskey) : k.wire.length = k.publicKey.length + 4 := by
  simp [wire, Digest.length_bytesOf]
  omega

/-- The sum of a byte string as words of sixteen bits, each byte at its place. -/
def wordSum : List UInt8 → Nat
  | [] => 0
  | [a] => 256 * a.toNat
  | a :: b :: rest => 256 * a.toNat + b.toNat + wordSum rest

/-- The number by which signatures and delegations refer to a key.  A key that is too long for a
message has none. -/
def keyTag (k : Dnskey) : Except Error UInt16 :=
  if 65535 < k.wire.length then .error .dns
  else
    let sum := wordSum k.wire
    .ok (UInt16.ofNat ((sum + sum / 65536) % 65536))

end Dnskey
end MultiSigner
