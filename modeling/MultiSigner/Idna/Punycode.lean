/-!
# Punycode

A text as ASCII characters: those that are ASCII already, a hyphen, and a row of digits that says
where the others are to be inserted, smallest character first.  Numbers have digits in base 36 with
thresholds that adapt to the numbers before.

## Contents

1. Digits and the bias.
2. Writing.
3. Reading, within 32 bits.
-/

namespace MultiSigner.Idna.Punycode

/-! ## 1. Digits and the bias -/

/-- The digit of a number below 36. -/
def digit (n : Nat) : Char :=
  if n < 26 then Char.ofNat (97 + n) else Char.ofNat (22 + n)

/-- The value of a digit, of either case. -/
def digitValue? (c : Char) : Option Nat :=
  if '0' ≤ c ∧ c ≤ '9' then some (c.toNat - 22)
  else if 'A' ≤ c ∧ c ≤ 'Z' then some (c.toNat - 65)
  else if 'a' ≤ c ∧ c ≤ 'z' then some (c.toNat - 97)
  else none

/-- The number that ends with a digit below it, at position `k`. -/
def threshold (k bias : Nat) : Nat :=
  if k ≤ bias then 1 else if bias + 26 ≤ k then 26 else k - bias

theorem digitValue?_digit : ∀ n < 36, digitValue? (digit n) = some n := by decide

theorem threshold_pos (k bias : Nat) : 1 ≤ threshold k bias := by
  unfold threshold
  split
  · omega
  · split <;> omega

theorem threshold_le (k bias : Nat) : threshold k bias ≤ 26 := by
  unfold threshold
  split
  · omega
  · split <;> omega

/-- Brings a distance below 456 and counts the steps, by 36 each. -/
def scale (delta k : Nat) : Nat × Nat :=
  if 455 < delta then scale (delta / 35) (k + 36) else (delta, k)
  termination_by delta
  decreasing_by omega

/-- The bias after a number was written or read. -/
def adapt (delta count : Nat) (first : Bool) : Nat :=
  let d := if first then delta / 700 else delta / 2
  let (d, k) := scale (d + d / count) 0
  k + 36 * d / (d + 38)

/-! ## 2. Writing -/

/-- The digits of a number, from position `k` on. -/
def encodeNumber (bias k q : Nat) : List Char :=
  let t := threshold k bias
  if q < t then [digit q]
  else digit (t + (q - t) % (36 - t)) :: encodeNumber bias (k + 36) ((q - t) / (36 - t))
  termination_by q
  decreasing_by
    have h1 := threshold_pos k bias
    have h2 := Nat.div_le_self (q - threshold k bias) (36 - threshold k bias)
    omega

/-- What is written so far, and where the next number starts from. -/
structure Encoder where
  output : List Char
  delta : Nat
  bias : Nat
  handled : Nat

/-- Passes a character of the text while those with number `code` are inserted. -/
def Encoder.pass (basic code : Nat) (e : Encoder) (c : Char) : Encoder :=
  if c.toNat < code then { e with delta := e.delta + 1 }
  else if c.toNat = code then
    ⟨e.output ++ encodeNumber e.bias 36 e.delta, 0,
      adapt e.delta (e.handled + 1) (e.handled = basic), e.handled + 1⟩
  else e

/-- Inserts the characters with the given numbers, in increasing order; those below `from` are
handled. -/
def Encoder.run (text : List Char) (basic : Nat) : List Nat → Nat → Encoder → Encoder
  | [], _, e => e
  | code :: codes, start, e =>
    let e := { e with delta := e.delta + (code - start) * (e.handled + 1) }
    let e := text.foldl (pass basic code) e
    run text basic codes (code + 1) { e with delta := e.delta + 1 }

/-- The ASCII form of a text, without any mark that it is one. -/
def encode (text : List Char) : List Char :=
  let basic := text.filter fun c => c.toNat < 128
  let codes := ((text.filter fun c => 128 ≤ c.toNat).map Char.toNat).mergeSort.eraseDups
  let e := Encoder.run text basic.length codes 128 ⟨[], 0, 72, basic.length⟩
  basic ++ (if basic.isEmpty then [] else ['-']) ++ e.output

/-! ## 3. Reading -/

/-- The greatest number that reading counts with. -/
def limit : Nat := 0xffffffff

/-- Reads one number and adds it to `i`. -/
def decodeNumber (bias : Nat) : List Char → Nat → Nat → Nat → Option (Nat × List Char)
  | [], _, _, _ => none
  | c :: rest, k, weight, i => do
    let d ← digitValue? c
    let t := threshold k bias
    if (limit - i) / weight < d then none
    else if d < t then return (i + d * weight, rest)
    else if limit / (36 - t) < weight then none
    else decodeNumber bias rest (k + 36) (weight * (36 - t)) (i + d * weight)

theorem decodeNumber_length {bias : Nat} {cs rest : List Char} {k w i n : Nat}
    (h : decodeNumber bias cs k w i = some (n, rest)) : rest.length < cs.length := by
  induction cs generalizing k w i with
  | nil => simp [decodeNumber] at h
  | cons c cs ih =>
    simp only [decodeNumber, Option.bind_eq_bind, Option.bind_eq_some_iff, Option.pure_def] at h
    obtain ⟨d, _, h⟩ := h
    split at h
    · simp at h
    · split at h
      · simp only [Option.some.injEq, Prod.mk.injEq] at h
        simp [← h.2]
      · split at h
        · simp at h
        · have := ih h
          simp only [List.length_cons]
          omega

/-- Reads the insertions one after the other. -/
def insertAll (code bias i : Nat) (text : List Char) (cs : List Char) : Option (List Char) :=
  match cs with
  | [] => some text
  | c :: rest =>
    match _h : decodeNumber bias (c :: rest) 36 1 i with
    | none => none
    | some (j, after) =>
      let count := text.length + 1
      let code' := code + j / count
      if limit < code' then none
      else if code'.isValidChar then
        insertAll code' (adapt (j - i) count (i = 0)) (j % count + 1)
          (text.insertIdx (j % count) (Char.ofNat code')) after
      else none
  termination_by cs.length
  decreasing_by
    have := decodeNumber_length (by assumption)
    exact this

/-- Splits after the last hyphen.  A hyphen that stands first is no separator. -/
def splitBasic (cs : List Char) : List Char × List Char :=
  let tail := (cs.reverse.takeWhile (· ≠ '-')).reverse
  let head := (cs.reverse.dropWhile (· ≠ '-')).reverse.dropLast
  if head.isEmpty then ([], cs) else (head, tail)

/-- Reads the ASCII form of a text. -/
def decode? (cs : List Char) : Option (List Char) :=
  let (basic, rest) := splitBasic cs
  if basic.all fun c => c.toNat < 128 then insertAll 128 72 0 basic rest
  else none

end MultiSigner.Idna.Punycode
