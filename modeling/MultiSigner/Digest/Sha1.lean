import MultiSigner.Digest.Block
/-!
# SHA-1

Five words of 32 bits, eighty rounds per block.
-/

namespace MultiSigner.Digest.Sha1

/-- The state between rounds. -/
structure Words where
  a : BitVec 32
  b : BitVec 32
  c : BitVec 32
  d : BitVec 32
  e : BitVec 32

/-- The state before the first block. -/
def initial : Words :=
  ⟨0x67452301, 0xefcdab89, 0x98badcfe, 0x10325476, 0xc3d2e1f0⟩

/-- The eighty words of a block. -/
def schedule (block : List UInt8) : List (BitVec 32) :=
  ((List.range 64).foldl (fun (w : Array (BitVec 32)) i =>
    w.push ((w.getD (i + 13) 0 ^^^ w.getD (i + 8) 0 ^^^ w.getD (i + 2) 0 ^^^ w.getD i 0).rotateLeft 1))
    (words 32 block).toArray).toList

/-- The mixing function and the constant of a round. -/
def mix (round : Nat) (b c d : BitVec 32) : BitVec 32 :=
  if round < 20 then ((b &&& c) ||| (~~~b &&& d)) + 0x5a827999
  else if round < 40 then (b ^^^ c ^^^ d) + 0x6ed9eba1
  else if round < 60 then ((b &&& c) ||| (b &&& d) ||| (c &&& d)) + 0x8f1bbcdc
  else (b ^^^ c ^^^ d) + 0xca62c1d6

/-- One round. -/
def round (s : Words) (step : Nat × BitVec 32) : Words :=
  ⟨s.a.rotateLeft 5 + mix step.1 s.b s.c s.d + s.e + step.2, s.a, s.b.rotateLeft 30, s.c, s.d⟩

/-- Takes a block. -/
def compress (s : Words) (block : List UInt8) : Words :=
  let t := ((List.range 80).zip (schedule block)).foldl round s
  ⟨s.a + t.a, s.b + t.b, s.c + t.c, s.d + t.d, s.e + t.e⟩

/-- The digest of a message. -/
def digest (message : List UInt8) : List UInt8 :=
  let s := run 64 8 compress initial message
  bytesOfWords [s.a, s.b, s.c, s.d, s.e]

end MultiSigner.Digest.Sha1
