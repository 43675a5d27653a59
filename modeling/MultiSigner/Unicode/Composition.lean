import MultiSigner.Unicode.EquivalenceTables
/-!
# Composed text

`Unicode.compose` brings a text into the composed normal form: characters fall apart, marks are put
in the order of their classes, and what belongs together is put together again.  Text below U+0300
is composed already, which `Unicode.composed_of_small` states.

## Contents

1. Taking apart.
2. The order of marks.
3. Putting together.
4. The normal form.
-/

namespace MultiSigner.Unicode

/-- The class that orders the marks on a character; zero for characters that are no marks. -/
def combiningClass (c : Char) : Nat :=
  combiningClassTable.value c.toNat

/-! ## 1. Taking apart -/

/-- The parts of a Hangul syllable. -/
def hangulParts? (n : Nat) : Option (List Char) :=
  if 0xac00 ≤ n ∧ n < 0xac00 + 11172 then
    let i := n - 0xac00
    let lead := Char.ofNat (0x1100 + i / 588)
    let vowel := Char.ofNat (0x1161 + i % 588 / 28)
    if i % 28 = 0 then some [lead, vowel]
    else some [lead, vowel, Char.ofNat (0x11a7 + i % 28)]
  else none

/-- Takes a character apart, `depth` times at most. -/
def parts : Nat → Char → List Char
  | 0, c => [c]
  | depth + 1, c =>
    match hangulParts? c.toNat with
    | some cs => cs
    | none =>
      match decompositionTable.valueAt? c.toNat with
      | none => [c]
      | some pair =>
        let first := parts depth (Char.ofNat (pair / 0x1000000))
        let second := pair % 0x1000000
        if second = 0 then first else first ++ parts depth (Char.ofNat second)

/-- Takes all characters of a text apart.  No character has parts in more than four layers. -/
def decompose (cs : List Char) : List Char :=
  cs.flatMap (parts 8)

/-! ## 2. The order of marks -/

/-- Puts a character in front of a text, behind the marks of lower class. -/
def insertMark (c : Char) : List Char → List Char
  | [] => [c]
  | d :: ds =>
    if 0 < combiningClass d ∧ combiningClass d < combiningClass c then d :: insertMark c ds
    else c :: d :: ds

/-- Orders the marks after each character by their classes. -/
def orderMarks (cs : List Char) : List Char :=
  cs.foldr insertMark []

/-! ## 3. Putting together -/

/-- The character that two others are put together to. -/
def composePair? (a b : Char) : Option Char :=
  let m := a.toNat
  let n := b.toNat
  if 0x1100 ≤ m ∧ m < 0x1113 ∧ 0x1161 ≤ n ∧ n < 0x1176 then
    some (Char.ofNat (0xac00 + ((m - 0x1100) * 21 + (n - 0x1161)) * 28))
  else if 0xac00 ≤ m ∧ m < 0xac00 + 11172 ∧ (m - 0xac00) % 28 = 0 ∧ 0x11a8 ≤ n ∧ n < 0x11c3 then
    some (Char.ofNat (m + (n - 0x11a7)))
  else (compositionTable.valueAt? (m * 0x1000000 + n)).map Char.ofNat

/-- Puts characters together.  `base` is the last character that is no mark, `marks` are the ones
after it that stay apart, latest first. -/
def recompose : Option Char → List Char → List Char → List Char
  | none, marks, [] => marks.reverse
  | some b, marks, [] => b :: marks.reverse
  | none, marks, c :: cs =>
    if combiningClass c = 0 then marks.reverse ++ recompose (some c) [] cs
    else recompose none (c :: marks) cs
  | some b, marks, c :: cs =>
    let free := match marks with
      | [] => true
      | m :: _ => combiningClass m < combiningClass c
    match (if free then composePair? b c else none) with
    | some p => recompose (some p) marks cs
    | none =>
      if combiningClass c = 0 then b :: (marks.reverse ++ recompose (some c) [] cs)
      else recompose (some b) (c :: marks) cs

/-! ## 4. The normal form -/

/-- The composed form of a text. -/
def compose (cs : List Char) : List Char :=
  if cs.all fun c => c.toNat < 0x300 then cs
  else recompose none [] (orderMarks (decompose cs))

/-- Whether a text is in its composed form. -/
def isComposed (cs : List Char) : Bool :=
  compose cs == cs

theorem composed_of_small {cs : List Char} (h : ∀ c ∈ cs, c.toNat < 0x300) : compose cs = cs := by
  rw [compose, if_pos]
  simpa using h

end MultiSigner.Unicode
