import MultiSigner.Digest.Sha2
/-!
# HMAC with SHA-256

The keyed digest that signs messages between parties who share a secret.
-/

namespace MultiSigner.Digest

/-- A secret as a block: longer ones are digested first, shorter ones filled up with zeros. -/
def hmacKey (secret : List UInt8) : List UInt8 :=
  let key := if 64 < secret.length then Sha2.sha256 secret else secret
  key ++ List.replicate (64 - key.length) 0

/-- The keyed digest of a message. -/
def hmacSha256 (secret message : List UInt8) : List UInt8 :=
  let key := hmacKey secret
  Sha2.sha256 (key.map (· ^^^ 0x5c) ++ Sha2.sha256 (key.map (· ^^^ 0x36) ++ message))

end MultiSigner.Digest
