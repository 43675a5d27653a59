import MultiSigner.Text.Decimal
import MultiSigner.Time.Calendar
/-!
# Instants

An instant is a number of nanoseconds since the start of 1970.  A timestamp also keeps the distance
to universal time in which it was written, which makes no difference for comparisons.

Timestamps are written as in `2024-01-02T03:04:05.5Z` and `2024-01-02T03:04:05+01:00`.

## Contents

1. Timestamps and their comparison.
2. Writing.
3. Reading.
-/

namespace MultiSigner

open Time (Date)

/-! ## 1. Timestamps -/

/-- An instant, and the minutes by which the local time is ahead. -/
structure Timestamp where
  nanos : Int
  offset : Int
  deriving Repr, DecidableEq, Inhabited

namespace Timestamp

/-- The nanoseconds of a second. -/
def second : Int := 1000000000

/-- The instant that is so many seconds after the start of 1970. -/
def ofSeconds (s : Int) : Timestamp := ⟨s * second, 0⟩

/-- The timestamp so many seconds later. -/
def addSeconds (t : Timestamp) (s : Int) : Timestamp :=
  ⟨t.nanos + s * second, t.offset⟩

/-- Whether two timestamps are the same instant. -/
def same (t u : Timestamp) : Bool :=
  t.nanos == u.nanos

/-- Whether a timestamp is before another. -/
def isBefore (t u : Timestamp) : Bool :=
  t.nanos < u.nanos

/-- The nanoseconds from `now` to `t`, none if `t` is past. -/
def remaining (t now : Timestamp) : Nat :=
  (t.nanos - now.nanos).toNat

/-- The whole seconds from `now` to `t`. -/
def remainingSeconds (t now : Timestamp) : Nat :=
  t.remaining now / 1000000000

theorem remaining_eq_zero_iff (t now : Timestamp) :
    t.remaining now = 0 ↔ now.isBefore t = false := by
  simp only [remaining, isBefore, Int.toNat_eq_zero, decide_eq_false_iff_not]
  omega

/-! ## 2. Writing -/

/-- The nanoseconds of a second as a fraction, without zeros at its end. -/
def fractionChars (nanos : Nat) : List Char :=
  if nanos = 0 then []
  else '.' :: ((Decimal.padded 9 nanos).reverse.dropWhile (· = '0')).reverse

/-- The distance to universal time. -/
def offsetChars (offset : Int) : List Char :=
  if offset = 0 then ['Z']
  else
    let minutes := offset.natAbs
    (if offset < 0 then '-' else '+') :: (Decimal.padded 2 (minutes / 60)
      ++ ':' :: Decimal.padded 2 (minutes % 60))

/-- The text of a timestamp.  There is none outside of the years 0 to 9999. -/
def text? (t : Timestamp) : Option String :=
  let shifted := t.nanos + t.offset * 60 * second
  let seconds := shifted / second
  let date := Date.ofDay (seconds / 86400)
  let inDay := (seconds % 86400).toNat
  if 0 ≤ date.year ∧ date.year ≤ 9999 then
    some (String.ofList (
      Decimal.padded 4 date.year.toNat ++ '-' :: (Decimal.padded 2 date.month
      ++ '-' :: (Decimal.padded 2 date.day
      ++ 'T' :: (Decimal.padded 2 (inDay / 3600)
      ++ ':' :: (Decimal.padded 2 (inDay / 60 % 60)
      ++ ':' :: (Decimal.padded 2 (inDay % 60)
      ++ fractionChars (shifted % second).toNat
      ++ offsetChars t.offset)))))))
  else none

/-! ## 3. Reading -/

/-- Takes exactly `count` digits off a text. -/
def takeDigits (count : Nat) (cs : List Char) : Option (Nat × List Char) :=
  let ds := cs.take count
  if ds.length = count ∧ ds.all Char.isDigit then
    some (Nat.ofDigitChars 10 ds 0, cs.drop count)
  else none

/-- Takes a given character off a text. -/
def takeChar (c : Char) : List Char → Option (List Char)
  | d :: rest => if d = c then some rest else none
  | [] => none

/-- Takes a fraction of a second off a text, if there is one.  What is finer than a nanosecond is
dropped. -/
def takeFraction : List Char → Option (Nat × List Char)
  | '.' :: rest =>
    let ds := rest.takeWhile Char.isDigit
    if ds.isEmpty then none
    else
      let nine := (ds ++ List.replicate 9 '0').take 9
      some (Nat.ofDigitChars 10 nine 0, rest.dropWhile Char.isDigit)
  | cs => some (0, cs)

/-- Takes the distance to universal time off a text. -/
def takeOffset (cs : List Char) : Option (Int × List Char) :=
  match cs with
  | [] => none
  | c :: rest =>
    if c = 'Z' ∨ c = 'z' then some (0, rest)
    else if c = '+' ∨ c = '-' then do
      let (hours, rest) ← takeDigits 2 rest
      guard (hours < 24)
      let rest ← takeChar ':' rest
      let (minutes, rest) ← takeDigits 2 rest
      guard (minutes < 60)
      let total := Int.ofNat (60 * hours + minutes)
      return (if c = '-' then -total else total, rest)
    else none

/-- Takes the one ASCII character between date and time off a text. -/
def takeSeparator : List Char → Option (List Char)
  | c :: rest => if c.toNat < 128 then some rest else none
  | [] => none

/-- The first instant of a day in universal time. -/
def ofDate (d : Date) : Int :=
  d.toDay * 86400 * second

/-- Whether an instant is the last second of a month, the only place for a leap second. -/
def isMonthEnd (nanos : Int) : Bool :=
  let seconds := nanos / second
  let date := Date.ofDay (seconds / 86400)
  seconds % 86400 = 86399 && date.day = Date.monthLength date.year date.month

/-- The timestamp that a text denotes.  A leap second is read as the last nanosecond of the second
before it. -/
def ofString? (s : String) : Option Timestamp := do
  let cs := s.toList
  let (year, cs) ← takeDigits 4 cs
  let cs ← takeChar '-' cs
  let (month, cs) ← takeDigits 2 cs
  let cs ← takeChar '-' cs
  let (day, cs) ← takeDigits 2 cs
  let cs ← takeSeparator cs
  let (hour, cs) ← takeDigits 2 cs
  let cs ← takeChar ':' cs
  let (minute, cs) ← takeDigits 2 cs
  let cs ← takeChar ':' cs
  let (sec, cs) ← takeDigits 2 cs
  let (fraction, cs) ← takeFraction cs
  let (offset, cs) ← takeOffset cs
  guard cs.isEmpty
  let date : Date := ⟨year, month, day⟩
  guard date.isValid
  guard (hour < 24 ∧ minute < 60 ∧ sec < 61)
  let leap := decide (sec = 60)
  let clock := Int.ofNat (3600 * hour + 60 * minute + if leap then 59 else sec)
  let fraction := if leap then 999999999 else fraction
  let nanos := ofDate date + (clock - offset * 60) * second + Int.ofNat fraction
  guard (!leap || isMonthEnd nanos)
  return ⟨nanos, offset⟩

end Timestamp
end MultiSigner
