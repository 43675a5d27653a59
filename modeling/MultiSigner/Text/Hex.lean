/-!
# Hexadecimal text

Byte strings as pairs of hexadecimal digits, in capitals (record digests) or in small letters
(dumps of messages).  Main statement: `Hex.decode?_encode`.
-/

namespace MultiSigner.Hex

/-- The small hexadecimal digit of a number below sixteen. -/
def digit (n : Nat) : Char :=
  if n < 10 then Char.ofNat (48 + n) else Char.ofNat (87 + n)

/-- The value of a hexadecimal digit of either case. -/
def digitValue? (c : Char) : Option Nat :=
  if '0' ≤ c ∧ c ≤ '9' then some (c.toNat - 48)
  else if 'a' ≤ c ∧ c ≤ 'f' then some (c.toNat - 87)
  else if 'A' ≤ c ∧ c ≤ 'F' then some (c.toNat - 55)
  else none

/-- Two small digits per byte. -/
def encode (bytes : List UInt8) : List Char :=
  bytes.flatMap fun b => [digit (b.toNat / 16), digit (b.toNat % 16)]

/-- Two capital digits per byte. -/
def encodeUpper (bytes : List UInt8) : List Char :=
  (encode bytes).map Char.toUpper

/-- Reads pairs of digits of either case. -/
def decode? : List Char → Option (List UInt8)
  | [] => some []
  | [_] => none
  | a :: b :: rest => do
    let hi ← digitValue? a
    let lo ← digitValue? b
    let bytes ← decode? rest
    return UInt8.ofNat (16 * hi + lo) :: bytes

/-- Reads a number of exactly the given digits. -/
def number? (cs : List Char) : Option Nat :=
  cs.foldl (fun acc c => do return 16 * (← acc) + (← digitValue? c)) (some 0)

theorem digitValue?_digit : ∀ n < 16, digitValue? (digit n) = some n := by decide

theorem decode?_encode (bytes : List UInt8) : decode? (encode bytes) = some bytes := by
  induction bytes with
  | nil => rfl
  | cons b bs ih =>
    have hb := b.toNat_lt
    have hi := digitValue?_digit (b.toNat / 16) (by omega)
    have lo := digitValue?_digit (b.toNat % 16) (by omega)
    have hv : UInt8.ofNat (16 * (b.toNat / 16) + b.toNat % 16) = b := by
      rw [Nat.div_add_mod, UInt8.ofNat_toNat]
    simp only [encode, List.flatMap_cons, List.cons_append, List.nil_append, decode?] at ih ⊢
    rw [hi, lo, ih]
    simp only [Option.bind_eq_bind, Option.bind_some, Option.pure_def, hv]

end MultiSigner.Hex
