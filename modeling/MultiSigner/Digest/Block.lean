/-!
# Messages as blocks of words

What the hash functions share: a message is padded with a one bit, zeros and its length, cut into
blocks, and each block is read as words with the most significant byte first.  Main statement:
`Digest.length_padded`, the padded message is a whole number of blocks.
-/

namespace MultiSigner.Digest

/-- The lowest bytes of a number, the most significant one first. -/
def bytesOf (count n : Nat) : List UInt8 :=
  (List.range count).reverse.map fun i => UInt8.ofNat (n >>> (8 * i))

/-- The number with the given bytes, the most significant one first. -/
def numberOf (bytes : List UInt8) : Nat :=
  bytes.foldl (fun n b => 256 * n + b.toNat) 0

/-- How many zeros are put between the one bit and the length. -/
def fillLength (block length count : Nat) : Nat :=
  (block - (count + 1 + length) % block) % block

/-- A message with its padding, for blocks of `block` bytes and lengths of `length` bytes. -/
def padded (block length : Nat) (message : List UInt8) : List UInt8 :=
  message ++ 0x80 :: (List.replicate (fillLength block length message.length) 0
    ++ bytesOf length (8 * message.length))

/-- Cuts a list into pieces of `size` elements; `count` pieces at most. -/
def pieces {α : Type} (size : Nat) : Nat → List α → List (List α)
  | 0, _ => []
  | _ + 1, [] => []
  | count + 1, x :: xs => (x :: xs).take size :: pieces size count ((x :: xs).drop size)

/-- The words of a byte string. -/
def words (width : Nat) (bytes : List UInt8) : List (BitVec width) :=
  (pieces (width / 8) bytes.length bytes).map fun w => BitVec.ofNat width (numberOf w)

/-- The bytes of some words. -/
def bytesOfWords {width : Nat} (ws : List (BitVec width)) : List UInt8 :=
  ws.flatMap fun w => bytesOf (width / 8) w.toNat

/-- Runs a compression function over the blocks of a message. -/
def run {σ : Type} (block length : Nat) (compress : σ → List UInt8 → σ) (initial : σ)
    (message : List UInt8) : σ :=
  let bytes := padded block length message
  (pieces block (bytes.length / block) bytes).foldl compress initial

theorem length_bytesOf (count n : Nat) : (bytesOf count n).length = count := by
  simp [bytesOf]

theorem length_padded (block length : Nat) (message : List UInt8) (h : 0 < block) :
    (padded block length message).length % block = 0 := by
  simp only [padded, List.length_append, List.length_cons, List.length_replicate, length_bytesOf,
    fillLength]
  have hr := Nat.mod_lt (message.length + 1 + length) h
  have he : message.length + ((block - (message.length + 1 + length) % block) % block + length + 1)
      = (message.length + 1 + length) + (block - (message.length + 1 + length) % block) % block := by
    omega
  rw [he, Nat.add_mod, Nat.mod_mod]
  by_cases hz : (message.length + 1 + length) % block = 0
  · simp [hz]
  · rw [Nat.mod_eq_of_lt (show block - (message.length + 1 + length) % block < block by omega)]
    rw [show (message.length + 1 + length) % block
      + (block - (message.length + 1 + length) % block) = block by omega, Nat.mod_self]

end MultiSigner.Digest
