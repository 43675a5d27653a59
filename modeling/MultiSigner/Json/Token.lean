import MultiSigner.Text.Decimal
import MultiSigner.Text.Hex
/-!
# The tokens of a JSON text

`Json.lex` cuts a text into tokens up to the first place where none can start.  A string whose
escapes denote half of a surrogate pair is a token that holds no text, because it may stand where
its content does not matter.

Main statement: `Json.scan_length`, each token takes at least one character.

## Contents

1. Tokens.
2. Strings: pieces, and the text that they denote.
3. Numbers.
4. Scanning a text.
-/

namespace MultiSigner.Json

/-! ## 1. Tokens -/

/-- The least thing that a JSON text is made of. -/
inductive Token
  | openArray
  | closeArray
  | openObject
  | closeObject
  | comma
  | colon
  | null
  | bool (b : Bool)
  /-- A number without fraction or exponent that fits into 64 bits, with or without sign. -/
  | integer (n : Int)
  /-- Any other number; `finite` tells whether it is within reach of double precision. -/
  | real (finite : Bool)
  /-- A string; `none` if its escapes denote no text. -/
  | string (text : Option String)
  /-- Here no token starts, and reading ends. -/
  | broken
  deriving Repr, DecidableEq

/-! ## 2. Strings -/

/-- What stands for part of a string: a character, or a sixteen bit unit given by an escape. -/
inductive Piece
  | plain (c : Char)
  | unit (n : Nat)

/-- The character that a one letter escape denotes. -/
def shortEscape? : Char → Option Char
  | '"' => some '"'
  | '\\' => some '\\'
  | '/' => some '/'
  | 'b' => some '\x08'
  | 'f' => some '\x0c'
  | 'n' => some '\n'
  | 'r' => some '\r'
  | 't' => some '\t'
  | _ => none

/-- Reads the pieces up to the closing quote, and what follows it. -/
def scanPieces : List Char → Option (List Piece × List Char)
  | [] => none
  | '"' :: rest => some ([], rest)
  | '\\' :: 'u' :: a :: b :: c :: d :: rest => do
    let n ← Hex.number? [a, b, c, d]
    let (ps, rest) ← scanPieces rest
    return (.unit n :: ps, rest)
  | '\\' :: e :: rest => do
    let c ← shortEscape? e
    let (ps, rest) ← scanPieces rest
    return (.plain c :: ps, rest)
  | c :: rest =>
    if 32 ≤ c.toNat ∧ c ≠ '\\' then do
      let (ps, rest) ← scanPieces rest
      return (.plain c :: ps, rest)
    else none

/-- The text of a list of pieces.  A unit between D800 and DBFF has to be followed by one between
DC00 and DFFF, and they stand for one character. -/
def denote? : List Piece → Option (List Char)
  | [] => some []
  | .plain c :: ps => do return c :: (← denote? ps)
  | .unit hi :: ps =>
    if 0xD800 ≤ hi ∧ hi < 0xDC00 then
      match ps with
      | .unit lo :: ps =>
        if 0xDC00 ≤ lo ∧ lo < 0xE000 then do
          return Char.ofNat (0x10000 + (hi - 0xD800) * 0x400 + (lo - 0xDC00)) :: (← denote? ps)
        else none
      | _ => none
    else if 0xDC00 ≤ hi ∧ hi < 0xE000 then none
    else do return Char.ofNat hi :: (← denote? ps)

/-- Reads a string after its opening quote. -/
def scanString (cs : List Char) : Option (Token × List Char) := do
  let (ps, rest) ← scanPieces cs
  return (.string ((denote? ps).map String.ofList), rest)

/-! ## 3. Numbers -/

/-- Whether the number `mantissa * 10 ^ exponent` rounds to a finite double. -/
def isFinite (mantissa : Nat) (exponent : Int) : Bool :=
  let size := Int.ofNat (Decimal.digits mantissa).length + exponent
  if mantissa = 0 ∨ size < 309 then true
  else if 309 < size then false
  else
    let limit := (1 <<< 1024) - (1 <<< 970)
    if exponent < 0 then mantissa < limit * Nat.pow 10 exponent.natAbs
    else mantissa * Nat.pow 10 exponent.natAbs < limit

/-- The token of a number without fraction and exponent. -/
def wholeNumber (negative : Bool) (n : Nat) : Token :=
  if negative then
    if 0 < n ∧ n ≤ 0x8000000000000000 then .integer (-Int.ofNat n) else .real (isFinite n 0)
  else
    if n < 0x10000000000000000 then .integer (Int.ofNat n) else .real (isFinite n 0)

/-- Splits a text after its leading digits, of which there has to be one. -/
def scanDigits (cs : List Char) : Option (List Char × List Char) :=
  let ds := cs.takeWhile Char.isDigit
  if ds.isEmpty then none else some (ds, cs.dropWhile Char.isDigit)

/-- Reads the fraction of a number, if there is one. -/
def scanFraction : List Char → Option (Option (List Char) × List Char)
  | '.' :: rest => do
    let (ds, rest) ← scanDigits rest
    return (some ds, rest)
  | cs => some (none, cs)

/-- Reads the exponent of a number, if there is one. -/
def scanExponent (cs : List Char) : Option (Option Int × List Char) :=
  match cs with
  | [] => some (none, [])
  | e :: rest =>
    if e = 'e' ∨ e = 'E' then
      match rest with
      | '-' :: rest => do
        let (ds, rest) ← scanDigits rest
        return (some (-Int.ofNat (Nat.ofDigitChars 10 ds 0)), rest)
      | '+' :: rest => do
        let (ds, rest) ← scanDigits rest
        return (some (Int.ofNat (Nat.ofDigitChars 10 ds 0)), rest)
      | rest => do
        let (ds, rest) ← scanDigits rest
        return (some (Int.ofNat (Nat.ofDigitChars 10 ds 0)), rest)
    else some (none, cs)

/-- Splits a text after the digits of a whole number.  A zero in front of other digits is
refused. -/
def scanWhole (cs : List Char) : Option (List Char × List Char) :=
  (scanDigits cs).filter fun (ds, _) => ds.length = 1 ∨ ds.head? ≠ some '0'

/-- Reads a number after its sign. -/
def scanNumber (negative : Bool) (cs : List Char) : Option (Token × List Char) := do
  let (ds, rest) ← scanWhole cs
  let (fraction, rest) ← scanFraction rest
  let (exponent, rest) ← scanExponent rest
  if fraction = none ∧ exponent = none then
    return (wholeNumber negative (Nat.ofDigitChars 10 ds 0), rest)
  else
    let fs := fraction.getD []
    let mantissa := Nat.ofDigitChars 10 (ds ++ fs) 0
    return (.real (isFinite mantissa (exponent.getD 0 - Int.ofNat fs.length)), rest)

/-! ## 4. Scanning a text -/

/-- The four blanks of JSON. -/
def isBlank (c : Char) : Bool :=
  c = ' ' || c = '\n' || c = '\t' || c = '\r'

/-- Reads the token that starts with `c`. -/
def scan (c : Char) (rest : List Char) : Option (Token × List Char) :=
  match c, rest with
  | '[', _ => some (.openArray, rest)
  | ']', _ => some (.closeArray, rest)
  | '\x7b', _ => some (.openObject, rest)
  | '\x7d', _ => some (.closeObject, rest)
  | ',', _ => some (.comma, rest)
  | ':', _ => some (.colon, rest)
  | 'n', 'u' :: 'l' :: 'l' :: rest => some (.null, rest)
  | 't', 'r' :: 'u' :: 'e' :: rest => some (.bool true, rest)
  | 'f', 'a' :: 'l' :: 's' :: 'e' :: rest => some (.bool false, rest)
  | '"', _ => scanString rest
  | '-', _ => scanNumber true rest
  | c, _ => if c.isDigit then scanNumber false (c :: rest) else none

theorem scanPieces_length {cs rest : List Char} {ps : List Piece}
    (h : scanPieces cs = some (ps, rest)) : rest.length < cs.length := by
  fun_induction scanPieces cs generalizing ps rest with
  | case1 => simp at h
  | case2 r => simp only [Option.some.injEq, Prod.mk.injEq] at h; simp [← h.2]
  | case3 a b c d r ih =>
    simp only [Option.bind_eq_bind, Option.bind_eq_some_iff, Option.pure_def] at h
    obtain ⟨_, _, ⟨qs, r'⟩, hq, h⟩ := h
    simp only [Option.some.injEq, Prod.mk.injEq] at h
    have := ih hq
    simp only [List.length_cons, ← h.2]
    omega
  | case4 e r _ ih =>
    simp only [Option.bind_eq_bind, Option.bind_eq_some_iff, Option.pure_def] at h
    obtain ⟨_, _, ⟨qs, r'⟩, hq, h⟩ := h
    simp only [Option.some.injEq, Prod.mk.injEq] at h
    have := ih hq
    simp only [List.length_cons, ← h.2]
    omega
  | case5 c r _ _ _ _ ih =>
    simp only [Option.bind_eq_bind, Option.bind_eq_some_iff, Option.pure_def] at h
    obtain ⟨⟨qs, r'⟩, hq, h⟩ := h
    simp only [Option.some.injEq, Prod.mk.injEq] at h
    have := ih hq
    simp only [List.length_cons, ← h.2]
    omega
  | case6 => simp at h

theorem scanString_length {cs rest : List Char} {t : Token}
    (h : scanString cs = some (t, rest)) : rest.length < cs.length := by
  simp only [scanString, Option.bind_eq_bind, Option.bind_eq_some_iff, Option.pure_def] at h
  obtain ⟨⟨ps, r⟩, hp, h⟩ := h
  simp only [Option.some.injEq, Prod.mk.injEq] at h
  rw [← h.2]
  exact scanPieces_length hp

theorem length_takeWhile_add_dropWhile (p : Char → Bool) (cs : List Char) :
    (cs.takeWhile p).length + (cs.dropWhile p).length = cs.length := by
  rw [← List.length_append, List.takeWhile_append_dropWhile]

theorem scanDigits_length {cs ds rest : List Char} (h : scanDigits cs = some (ds, rest)) :
    rest.length < cs.length := by
  simp only [scanDigits] at h
  split at h
  · simp at h
  · rename_i hne
    simp only [Option.some.injEq, Prod.mk.injEq] at h
    have hl := length_takeWhile_add_dropWhile Char.isDigit cs
    have : 0 < (cs.takeWhile Char.isDigit).length := by
      rw [List.length_pos_iff]
      simpa using hne
    rw [← h.2]
    omega

theorem scanFraction_length {cs rest : List Char} {f : Option (List Char)}
    (h : scanFraction cs = some (f, rest)) : rest.length ≤ cs.length := by
  unfold scanFraction at h
  split at h
  · simp only [Option.bind_eq_bind, Option.bind_eq_some_iff, Option.pure_def] at h
    obtain ⟨⟨ds, r⟩, hd, h⟩ := h
    simp only [Option.some.injEq, Prod.mk.injEq] at h
    have := scanDigits_length hd
    simp only [List.length_cons, ← h.2]
    omega
  · simp only [Option.some.injEq, Prod.mk.injEq] at h
    exact Nat.le_of_eq (by rw [h.2])

theorem scanExponent_length {cs rest : List Char} {e : Option Int}
    (h : scanExponent cs = some (e, rest)) : rest.length ≤ cs.length := by
  unfold scanExponent at h
  split at h
  · simp only [Option.some.injEq, Prod.mk.injEq] at h
    simp [← h.2]
  · split at h
    · split at h <;>
      · simp only [Option.bind_eq_bind, Option.bind_eq_some_iff, Option.pure_def] at h
        obtain ⟨⟨ds, r⟩, hd, h⟩ := h
        simp only [Option.some.injEq, Prod.mk.injEq] at h
        have := scanDigits_length hd
        simp only [List.length_cons, ← h.2] at this ⊢
        omega
    · simp only [Option.some.injEq, Prod.mk.injEq] at h
      exact Nat.le_of_eq (by rw [h.2])

theorem scanNumber_length {negative : Bool} {cs rest : List Char} {t : Token}
    (h : scanNumber negative cs = some (t, rest)) : rest.length < cs.length := by
  simp only [scanNumber, Option.bind_eq_bind, Option.bind_eq_some_iff, Option.pure_def] at h
  obtain ⟨⟨ds, r1⟩, h1, ⟨f, r2⟩, h2, ⟨e, r3⟩, h3, h⟩ := h
  have l1 := scanDigits_length (Option.filter_eq_some_iff.1 h1).1
  have l2 := scanFraction_length h2
  have l3 := scanExponent_length h3
  have : r3 = rest := by
    split at h <;> simp only [Option.some.injEq, Prod.mk.injEq] at h <;> exact h.2
  subst this
  simp only at l1 l2 l3
  omega

/-- A token leaves no more than what follows its first character. -/
theorem scan_length {c : Char} {cs rest : List Char} {t : Token}
    (h : scan c cs = some (t, rest)) : rest.length ≤ cs.length := by
  unfold scan at h
  split at h
  all_goals first
    | (simp only [Option.some.injEq, Prod.mk.injEq] at h
       simp only [← h.2, List.length_cons]
       omega)
    | exact Nat.le_of_lt (scanString_length h)
    | exact Nat.le_of_lt (scanNumber_length h)
    | skip
  split at h
  · exact Nat.le_of_lt_succ (scanNumber_length h)
  · simp at h

/-- The tokens of a text, up to the first place where none starts. -/
def lex : List Char → List Token
  | [] => []
  | c :: rest =>
    if isBlank c then lex rest
    else match _h : scan c rest with
      | none => [.broken]
      | some (t, after) => t :: lex after
  termination_by cs => cs.length
  decreasing_by
    · simp
    · have := scan_length (by assumption)
      simp only [List.length_cons]
      omega

end MultiSigner.Json
