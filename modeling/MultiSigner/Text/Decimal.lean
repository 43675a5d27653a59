/-!
# Decimal numbers

How counts, port numbers and seconds are written and read.  `Decimal.ofDigits?_digits` says that
reading undoes writing, `Decimal.ofDigits?_eq_some_iff` which texts are read and as what.

## Contents

1. Digits: a number as its shortest digit text, and the value of a digit text.
2. Bounded numbers as an operator writes them, with an optional plus sign.
3. Numbers padded to a fixed width.
-/

namespace MultiSigner.Decimal

/-! ## 1. Digits -/

/-- Writes a number with as few digits as possible. -/
def digits (n : Nat) : List Char :=
  Nat.toDigits 10 n

/-- Whether a text is made of one or more digits and nothing else. -/
def isDigits (cs : List Char) : Bool :=
  !cs.isEmpty && cs.all Char.isDigit

/-- Reads a digit text.  Leading zeros are allowed. -/
def ofDigits? (cs : List Char) : Option Nat :=
  if isDigits cs then some (Nat.ofDigitChars 10 cs 0) else none

theorem digits_ne_nil (n : Nat) : digits n ≠ [] :=
  Nat.toDigits_ne_nil

theorem isDigit_of_mem_digits {n : Nat} {c : Char} (h : c ∈ digits n) : c.isDigit = true :=
  Nat.isDigit_of_mem_toDigits (by decide) (by decide) h

theorem isDigits_iff {cs : List Char} :
    isDigits cs = true ↔ cs ≠ [] ∧ ∀ c ∈ cs, c.isDigit = true := by
  simp only [isDigits, Bool.and_eq_true, Bool.not_eq_true', List.isEmpty_eq_false_iff,
    List.all_eq_true, ne_eq]

theorem isDigits_digits (n : Nat) : isDigits (digits n) = true :=
  isDigits_iff.2 ⟨digits_ne_nil n, fun _ hc => isDigit_of_mem_digits hc⟩

theorem ofDigits?_digits (n : Nat) : ofDigits? (digits n) = some n := by
  rw [ofDigits?, if_pos (isDigits_digits n), digits, Nat.ofDigitChars_ten_toDigits]

theorem ofDigits?_eq_some_iff {cs : List Char} {n : Nat} :
    ofDigits? cs = some n ↔ isDigits cs = true ∧ Nat.ofDigitChars 10 cs 0 = n := by
  simp only [ofDigits?]
  split <;> simp_all

theorem ofDigits?_nil : ofDigits? [] = none := rfl

/-! ## 2. Bounded numbers -/

/-- Reads a number below `bound`; a plus sign may stand before the digits. -/
def below? (bound : Nat) (cs : List Char) : Option Nat :=
  let ds := match cs with
    | '+' :: rest => rest
    | _ => cs
  (ofDigits? ds).filter (· < bound)

theorem below?_lt {bound n : Nat} {cs : List Char} (h : below? bound cs = some n) : n < bound := by
  simp only [below?, Option.filter_eq_some_iff, decide_eq_true_eq] at h
  exact h.2

/-! ## 3. Fixed width -/

/-- Writes a number with at least `width` digits, by zeros in front. -/
def padded (width n : Nat) : List Char :=
  let ds := digits n
  List.replicate (width - ds.length) '0' ++ ds

theorem ofDigitChars_zeros (k : Nat) (ds : List Char) :
    Nat.ofDigitChars 10 (List.replicate k '0' ++ ds) 0 = Nat.ofDigitChars 10 ds 0 := by
  rw [Nat.ofDigitChars_append, Nat.ofDigitChars_replicate_zero, Nat.mul_zero]

theorem ofDigits?_padded (width n : Nat) : ofDigits? (padded width n) = some n := by
  have h : isDigits (padded width n) = true := by
    refine isDigits_iff.2 ⟨by simp [padded, digits_ne_nil], fun c hc => ?_⟩
    simp only [padded, List.mem_append, List.mem_replicate] at hc
    rcases hc with ⟨_, rfl⟩ | hc
    · rfl
    · exact isDigit_of_mem_digits hc
  rw [ofDigits?, if_pos h, padded, ofDigitChars_zeros, digits, Nat.ofDigitChars_ten_toDigits]

end MultiSigner.Decimal
