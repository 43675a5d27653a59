import MultiSigner.Digest.Hmac
import MultiSigner.Update.Signed
import MultiSigner.Wire.Message
/-!
# Signatures of messages

A message is signed by a record at its end, which holds a keyed digest of the message, of the time
and of what else the record says.  The digest of a response covers that of the request as well, so
a response can not be taken for that of another request.

## Contents

1. What is digested.
2. Signing.
3. Reading a signature.
4. Verifying a response.
-/

namespace MultiSigner.Wire

namespace Signature

/-! ## 1. What is digested -/

/-- The name of the keyed digest. -/
def algorithm : DomainName :=
  ⟨["hmac-sha256".toUTF8.toList], true⟩

/-- How many seconds the clocks of the two sides may be apart. -/
def tolerance : Nat := 300

/-- What a signature says besides the message: the key, the times, and an error. -/
structure Terms where
  key : DomainName
  algorithm : DomainName
  time : Nat
  tolerance : Nat
  error : Nat := 0
  other : List UInt8 := []
  deriving Repr, DecidableEq

namespace Terms

/-- The name, class and time to live under which signatures stand. -/
def head (t : Terms) : List UInt8 :=
  t.key.wire ++ Digest.bytesOf 2 RecordClass.any.number ++ Digest.bytesOf 4 0

/-- The times. -/
def times (t : Terms) : List UInt8 :=
  Digest.bytesOf 6 t.time ++ Digest.bytesOf 2 t.tolerance

/-- The error and what belongs to it. -/
def failure (t : Terms) : List UInt8 :=
  Digest.bytesOf 2 t.error ++ Digest.bytesOf 2 t.other.length ++ t.other

/-- The bytes that are digested. -/
def bytes (t : Terms) : List UInt8 :=
  t.head ++ t.algorithm.wire ++ t.times ++ t.failure

end Terms

/-! ## 2. Signing -/

/-- A message with its signature, and the digest in it. -/
structure Signed where
  bytes : List UInt8
  digest : List UInt8
  deriving Repr, DecidableEq

/-- The record with a signature. -/
def record (t : Terms) (id : UInt16) (digest : List UInt8) : List UInt8 :=
  let data := t.algorithm.wire ++ t.times ++ Digest.bytesOf 2 digest.length ++ digest
    ++ Digest.bytesOf 2 id.toNat ++ t.failure
  t.key.wire ++ Digest.bytesOf 2 RecordType.tsig.number.toNat
    ++ Digest.bytesOf 2 RecordClass.any.number ++ Digest.bytesOf 4 0
    ++ Digest.bytesOf 2 data.length ++ data

/-- The place of the number of additional records in a message. -/
def additionalsAt : Nat := 10

/-- The message with another number of additional records. -/
def withAdditionals (message : List UInt8) (count : Nat) : List UInt8 :=
  message.take additionalsAt ++ Digest.bytesOf 2 count ++ message.drop (additionalsAt + 2)

/-- Signs a message without additional records. -/
def sign (key : SigningKey) (time : Nat) (id : UInt16) (message : List UInt8) : Signed :=
  let terms : Terms := { key := key.name, algorithm, time, tolerance }
  let digest := Digest.hmacSha256 key.secret (message ++ terms.bytes)
  ⟨withAdditionals message 1 ++ record terms id digest, digest⟩

/-! ## 3. Reading a signature -/

/-- A signature as it stands in a message. -/
structure Found where
  terms : Terms
  digest : List UInt8
  id : Nat
  deriving Repr, DecidableEq

/-- Reads the signature in a record. -/
def read (e : Input.Entry) : Input Found := do
  set e.dataStart
  let algorithm ← Input.name
  let time ← Input.number 6
  let tolerance ← Input.number 2
  let digest ← Input.bytes (← Input.number 2)
  let id ← Input.number 2
  let error ← Input.number 2
  let other ← Input.bytes (← Input.number 2)
  return ⟨⟨e.owner, algorithm, time, tolerance, error, other⟩, digest, id⟩

/-! ## 4. Verifying a response -/

/-- What is wrong with a response. -/
inductive Fault
  | unreadable
  | missing
  | otherRecord
  | otherKey
  | shortDigest
  | otherDigest
  | otherTime
  deriving Repr, DecidableEq

/-- The wording of a fault. -/
def Fault.message : Fault → String
  | unreadable => "unexpected end of input reached"
  | missing => "missing tsig from response that must be authenticated"
  | otherRecord => "signature is not tsig"
  | otherKey => "Tsig key wrong key error"
  | shortDigest => "truncated HMACs are not supported"
  | otherDigest => "hmac validation failure"
  | otherTime => "tsig validation error: outdated response"

/-- The message up to the signature, as it was before it was signed. -/
def unsigned (message : List UInt8) (start additionals id : Nat) : List UInt8 :=
  Digest.bytesOf 2 id ++ (withAdditionals (message.take start) (additionals - 1)).drop 2

/-- A response with the signature that was found to be right. -/
structure Verified where
  response : Response
  signature : Found
  deriving Repr

/-- How a response is shown.  The digest stands for the dump of the whole signature. -/
def Verified.text (v : Verified) : String :=
  s!"{v.response.text}, signed {v.signature.digest}"

/-- Verifies the response to a message that was signed at a time. -/
def verify (key : SigningKey) (time : Nat) (request : List UInt8) (message : Array UInt8) :
    Except Fault Verified := do
  let some response := Response.ofBytes? message | throw .unreadable
  let some (last, _) := response.additionals.getLast? | throw .missing
  if last.type ≠ .tsig then throw .otherRecord
  let some (found, _) := Input.from? (read last) message 0 | throw .unreadable
  if found.terms.key != key.name || found.terms.algorithm != algorithm then throw .otherKey
  if found.digest.length < 32 then throw .shortDigest
  let digested := Digest.bytesOf 2 request.length ++ request
    ++ unsigned message.toList last.start response.header.additionals found.id ++ found.terms.bytes
  if Digest.hmacSha256 key.secret digested ≠ found.digest then throw .otherDigest
  if time < found.terms.time - found.terms.tolerance
    || found.terms.time + found.terms.tolerance ≤ time then throw .otherTime
  return ⟨response, found⟩

end Signature
end MultiSigner.Wire
