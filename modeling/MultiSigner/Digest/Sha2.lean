import MultiSigner.Digest.Block
/-!
# SHA-256, SHA-384 and SHA-512

One compression function for words of 32 or 64 bits.  The constants are fractions of roots of the
first primes: cube roots for the rounds, square roots for the initial states.  The shorter words
are the first halves of the longer ones.

## Contents

1. The constants.
2. What differs between the word sizes.
3. Compression.
4. The three functions.
-/

namespace MultiSigner.Digest.Sha2

/-! ## 1. The constants -/

/-- The first 64 bits of the fractions of the cube roots of the first eighty primes. -/
def cubeRoots : List Nat := [
    0x428a2f98d728ae22, 0x7137449123ef65cd, 0xb5c0fbcfec4d3b2f, 0xe9b5dba58189dbbc,
    0x3956c25bf348b538, 0x59f111f1b605d019, 0x923f82a4af194f9b, 0xab1c5ed5da6d8118,
    0xd807aa98a3030242, 0x12835b0145706fbe, 0x243185be4ee4b28c, 0x550c7dc3d5ffb4e2,
    0x72be5d74f27b896f, 0x80deb1fe3b1696b1, 0x9bdc06a725c71235, 0xc19bf174cf692694,
    0xe49b69c19ef14ad2, 0xefbe4786384f25e3, 0x0fc19dc68b8cd5b5, 0x240ca1cc77ac9c65,
    0x2de92c6f592b0275, 0x4a7484aa6ea6e483, 0x5cb0a9dcbd41fbd4, 0x76f988da831153b5,
    0x983e5152ee66dfab, 0xa831c66d2db43210, 0xb00327c898fb213f, 0xbf597fc7beef0ee4,
    0xc6e00bf33da88fc2, 0xd5a79147930aa725, 0x06ca6351e003826f, 0x142929670a0e6e70,
    0x27b70a8546d22ffc, 0x2e1b21385c26c926, 0x4d2c6dfc5ac42aed, 0x53380d139d95b3df,
    0x650a73548baf63de, 0x766a0abb3c77b2a8, 0x81c2c92e47edaee6, 0x92722c851482353b,
    0xa2bfe8a14cf10364, 0xa81a664bbc423001, 0xc24b8b70d0f89791, 0xc76c51a30654be30,
    0xd192e819d6ef5218, 0xd69906245565a910, 0xf40e35855771202a, 0x106aa07032bbd1b8,
    0x19a4c116b8d2d0c8, 0x1e376c085141ab53, 0x2748774cdf8eeb99, 0x34b0bcb5e19b48a8,
    0x391c0cb3c5c95a63, 0x4ed8aa4ae3418acb, 0x5b9cca4f7763e373, 0x682e6ff3d6b2b8a3,
    0x748f82ee5defb2fc, 0x78a5636f43172f60, 0x84c87814a1f0ab72, 0x8cc702081a6439ec,
    0x90befffa23631e28, 0xa4506cebde82bde9, 0xbef9a3f7b2c67915, 0xc67178f2e372532b,
    0xca273eceea26619c, 0xd186b8c721c0c207, 0xeada7dd6cde0eb1e, 0xf57d4f7fee6ed178,
    0x06f067aa72176fba, 0x0a637dc5a2c898a6, 0x113f9804bef90dae, 0x1b710b35131c471b,
    0x28db77f523047d84, 0x32caab7b40c72493, 0x3c9ebe0a15c9bebc, 0x431d67c49c100d4c,
    0x4cc5d4becb3e42b6, 0x597f299cfc657e2a, 0x5fcb6fab3ad6faec, 0x6c44198c4a475817]

/-- The first 64 bits of the fractions of the square roots of the first sixteen primes. -/
def squareRoots : List Nat := [
    0x6a09e667f3bcc908, 0xbb67ae8584caa73b, 0x3c6ef372fe94f82b, 0xa54ff53a5f1d36f1,
    0x510e527fade682d1, 0x9b05688c2b3e6c1f, 0x1f83d9abfb41bd6b, 0x5be0cd19137e2179,
    0xcbbb9d5dc1059ed8, 0x629a292a367cd507, 0x9159015a3070dd17, 0x152fecd8f70e5939,
    0x67332667ffc00b31, 0x8eb44a8768581511, 0xdb0c2e0d64f98fa7, 0x47b5481dbefa4fa4]

/-! ## 2. Word sizes -/

/-- Three rotations that are added without carry, the third one a shift where `shifts` says so. -/
structure Spread where
  first : Nat
  second : Nat
  third : Nat
  shifts : Bool

/-- Applies the rotations. -/
def Spread.apply {width : Nat} (s : Spread) (w : BitVec width) : BitVec width :=
  w.rotateRight s.first ^^^ w.rotateRight s.second
    ^^^ (if s.shifts then w >>> s.third else w.rotateRight s.third)

/-- What depends on the size of a word. -/
structure Layout where
  width : Nat
  rounds : Nat
  spreadA : Spread
  spreadE : Spread
  early : Spread
  late : Spread

/-- Words of 32 bits. -/
def short : Layout :=
  ⟨32, 64, ⟨2, 13, 22, false⟩, ⟨6, 11, 25, false⟩, ⟨7, 18, 3, true⟩, ⟨17, 19, 10, true⟩⟩

/-- Words of 64 bits. -/
def long : Layout :=
  ⟨64, 80, ⟨28, 34, 39, false⟩, ⟨14, 18, 41, false⟩, ⟨1, 8, 7, true⟩, ⟨19, 61, 6, true⟩⟩

/-- The first bits of a constant. -/
def Layout.constant (l : Layout) (c : Nat) : BitVec l.width :=
  BitVec.ofNat l.width (c >>> (64 - l.width))

/-! ## 3. Compression -/

/-- The words of a block, one per round. -/
def schedule (l : Layout) (block : List UInt8) : List (BitVec l.width) :=
  ((List.range (l.rounds - 16)).foldl (fun (w : Array (BitVec l.width)) i =>
    w.push (l.late.apply (w.getD (i + 14) 0) + w.getD (i + 9) 0 + l.early.apply (w.getD (i + 1) 0)
      + w.getD i 0))
    (words l.width block).toArray).toList

/-- The state between rounds. -/
structure Words (width : Nat) where
  a : BitVec width
  b : BitVec width
  c : BitVec width
  d : BitVec width
  e : BitVec width
  f : BitVec width
  g : BitVec width
  h : BitVec width

/-- The eight words in order. -/
def Words.toList {width : Nat} (s : Words width) : List (BitVec width) :=
  [s.a, s.b, s.c, s.d, s.e, s.f, s.g, s.h]

/-- The state that starts with the given constants. -/
def Words.ofConstants (l : Layout) (cs : List Nat) : Words l.width :=
  let w := fun i => l.constant (cs.getD i 0)
  ⟨w 0, w 1, w 2, w 3, w 4, w 5, w 6, w 7⟩

/-- One round, with its constant and its word. -/
def round (l : Layout) (s : Words l.width) (step : Nat × BitVec l.width) : Words l.width :=
  let t := s.h + l.spreadE.apply s.e + ((s.e &&& s.f) ^^^ (~~~s.e &&& s.g)) + l.constant step.1
    + step.2
  let u := l.spreadA.apply s.a + ((s.a &&& s.b) ^^^ (s.a &&& s.c) ^^^ (s.b &&& s.c))
  ⟨t + u, s.a, s.b, s.c, s.d + t, s.e, s.f, s.g⟩

/-- Takes a block. -/
def compress (l : Layout) (s : Words l.width) (block : List UInt8) : Words l.width :=
  let t := (cubeRoots.zip (schedule l block)).foldl (round l) s
  ⟨s.a + t.a, s.b + t.b, s.c + t.c, s.d + t.d, s.e + t.e, s.f + t.f, s.g + t.g, s.h + t.h⟩

/-- The final state for a message. -/
def final (l : Layout) (initial : List Nat) (message : List UInt8) : Words l.width :=
  run (2 * l.width) (l.width / 4) (compress l) (Words.ofConstants l initial) message

/-! ## 4. The three functions -/

/-- SHA-256. -/
def sha256 (message : List UInt8) : List UInt8 :=
  bytesOfWords (final short (squareRoots.take 8) message).toList

/-- SHA-512. -/
def sha512 (message : List UInt8) : List UInt8 :=
  bytesOfWords (final long (squareRoots.take 8) message).toList

/-- SHA-384: another start, and the last two words left out. -/
def sha384 (message : List UInt8) : List UInt8 :=
  bytesOfWords ((final long (squareRoots.drop 8) message).toList.take 6)

end MultiSigner.Digest.Sha2
