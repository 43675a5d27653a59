/-!
# Base64

The standard alphabet with padding, read strictly: pads and unused bits have to stand as writing
puts them.  Main statement: `Base64.decode?_encode` (reading undoes writing).

## Contents

1. The alphabet.
2. Groups of three bytes and of four letters.
3. Whole texts.
-/

namespace MultiSigner.Base64

/-! ## 1. The alphabet -/

/-- The letter of a number below 64. -/
def letter (n : Nat) : Char :=
  if n < 26 then Char.ofNat (65 + n)
  else if n < 52 then Char.ofNat (71 + n)
  else if n < 62 then Char.ofNat (n - 4)
  else if n = 62 then '+' else '/'

/-- The number that a letter stands for. -/
def value? (c : Char) : Option Nat :=
  if 'A' ≤ c ∧ c ≤ 'Z' then some (c.toNat - 65)
  else if 'a' ≤ c ∧ c ≤ 'z' then some (c.toNat - 71)
  else if '0' ≤ c ∧ c ≤ '9' then some (c.toNat + 4)
  else if c = '+' then some 62
  else if c = '/' then some 63
  else none

theorem value?_letter : ∀ n < 64, value? (letter n) = some n := by decide

theorem letter_ne_pad : ∀ n < 64, letter n ≠ '=' := by decide

theorem value?_pad : value? '=' = none := by decide

/-! ## 2. Groups -/

/-- Four letters for three bytes. -/
def encodeThree (a b c : UInt8) : List Char :=
  let n := 65536 * a.toNat + 256 * b.toNat + c.toNat
  [letter (n / 262144), letter (n / 4096 % 64), letter (n / 64 % 64), letter (n % 64)]

/-- Three letters and a pad for two bytes. -/
def encodeTwo (a b : UInt8) : List Char :=
  let n := 1024 * a.toNat + 4 * b.toNat
  [letter (n / 4096), letter (n / 64 % 64), letter (n % 64), '=']

/-- Two letters and two pads for one byte. -/
def encodeOne (a : UInt8) : List Char :=
  let n := 16 * a.toNat
  [letter (n / 64), letter (n % 64), '=', '=']

/-- Three bytes from four letters. -/
def decodeFour? (a b c d : Char) : Option (List UInt8) := do
  let n := 262144 * (← value? a) + 4096 * (← value? b) + 64 * (← value? c) + (← value? d)
  return [UInt8.ofNat (n / 65536), UInt8.ofNat (n / 256 % 256), UInt8.ofNat (n % 256)]

/-- Two bytes from three letters; the two bits left over have to be zero. -/
def decodeThree? (a b c : Char) : Option (List UInt8) := do
  let n := 4096 * (← value? a) + 64 * (← value? b) + (← value? c)
  if n % 4 = 0 then some [UInt8.ofNat (n / 1024), UInt8.ofNat (n / 4 % 256)] else none

/-- One byte from two letters; the four bits left over have to be zero. -/
def decodeTwo? (a b : Char) : Option (List UInt8) := do
  let n := 64 * (← value? a) + (← value? b)
  if n % 16 = 0 then some [UInt8.ofNat (n / 16)] else none

/-- The bytes of the last group, which ends in a pad. -/
def decodePadded? (a b c : Char) : Option (List UInt8) :=
  if c = '=' then decodeTwo? a b else decodeThree? a b c

/-! ## 3. Whole texts -/

/-- Writes bytes in base64, with padding. -/
def encode : List UInt8 → List Char
  | [] => []
  | [a] => encodeOne a
  | [a, b] => encodeTwo a b
  | a :: b :: c :: rest => encodeThree a b c ++ encode rest

/-- Reads base64 text.  The length has to be a multiple of four, pads stand only at the end, and
bits that belong to no byte have to be zero. -/
def decode? : List Char → Option (List UInt8)
  | [] => some []
  | a :: b :: c :: d :: rest =>
    if d = '=' then
      if rest.isEmpty then decodePadded? a b c else none
    else do return (← decodeFour? a b c d) ++ (← decode? rest)
  | _ => none

theorem decodeFour?_encodeThree (a b c : UInt8) :
    ∃ p q r s, encodeThree a b c = [p, q, r, s] ∧ s ≠ '=' ∧ decodeFour? p q r s = some [a, b, c] := by
  have ha := a.toNat_lt
  have hb := b.toNat_lt
  have hc := c.toNat_lt
  refine ⟨_, _, _, _, rfl, letter_ne_pad _ (by omega), ?_⟩
  simp only [decodeFour?]
  rw [value?_letter _ (by omega), value?_letter _ (by omega), value?_letter _ (by omega),
    value?_letter _ (by omega)]
  simp only [Option.bind_eq_bind, Option.bind_some, Option.pure_def, Option.some.injEq,
    List.cons.injEq, and_true]
  refine ⟨?_, ?_, ?_⟩ <;> apply UInt8.toNat_inj.1 <;> rw [UInt8.toNat_ofNat'] <;> omega

theorem decodePadded?_encodeTwo (a b : UInt8) :
    ∃ p q r, encodeTwo a b = [p, q, r, '='] ∧ decodePadded? p q r = some [a, b] := by
  have ha := a.toNat_lt
  have hb := b.toNat_lt
  refine ⟨_, _, _, rfl, ?_⟩
  rw [decodePadded?, if_neg (letter_ne_pad _ (by omega)), decodeThree?,
    value?_letter _ (by omega), value?_letter _ (by omega), value?_letter _ (by omega)]
  simp only [Option.bind_eq_bind, Option.bind_some]
  rw [if_pos (by omega)]
  simp only [Option.some.injEq, List.cons.injEq, and_true]
  refine ⟨?_, ?_⟩ <;> apply UInt8.toNat_inj.1 <;> rw [UInt8.toNat_ofNat'] <;> omega

theorem decodePadded?_encodeOne (a : UInt8) :
    ∃ p q, encodeOne a = [p, q, '=', '='] ∧ decodePadded? p q '=' = some [a] := by
  have ha := a.toNat_lt
  refine ⟨_, _, rfl, ?_⟩
  rw [decodePadded?, if_pos rfl, decodeTwo?, value?_letter _ (by omega), value?_letter _ (by omega)]
  simp only [Option.bind_eq_bind, Option.bind_some]
  rw [if_pos (by omega)]
  simp only [Option.some.injEq, List.cons.injEq, and_true]
  apply UInt8.toNat_inj.1
  rw [UInt8.toNat_ofNat']
  omega

/-- Reading undoes writing. -/
theorem decode?_encode : ∀ bytes : List UInt8, decode? (encode bytes) = some bytes
  | [] => rfl
  | [a] => by
    obtain ⟨p, q, h, hd⟩ := decodePadded?_encodeOne a
    simp [encode, h, decode?, hd]
  | [a, b] => by
    obtain ⟨p, q, r, h, hd⟩ := decodePadded?_encodeTwo a b
    simp [encode, h, decode?, hd]
  | a :: b :: c :: rest => by
    obtain ⟨p, q, r, s, h, hs, hd⟩ := decodeFour?_encodeThree a b c
    simp [encode, h, decode?, hs, hd, decode?_encode rest]

/-- The text of `encode` as a string. -/
def encodeString (bytes : List UInt8) : String :=
  String.ofList (encode bytes)

/-- Reads a string as `decode?` does. -/
def decodeString? (s : String) : Option (List UInt8) :=
  decode? s.toList

end MultiSigner.Base64
