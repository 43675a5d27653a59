/-
# Timestamps are read back

A timestamp that has a text is read from it unchanged, down to the nanosecond and with its distance
to universal time (`ofString?_text`).

* The calendar.  A day falls into four hundred years, and these into centuries, groups of four
  years, years and days (`exists_split`).  The last day of a year of 366 days is the leap day, so
  the date of a day exists (`isValid_ofDay`), and counting days brings it back (`toDay_ofDay`).
* The text.  Each part has its fixed width, apart from the fraction, which ends where the distance
  to universal time begins.
-/
import Mathlib.Algebra.Group.Nat.Defs
import Mathlib.Data.List.DropRight
import MultiSigner.Proofs.Saving.Text
import MultiSigner.Time.Timestamp

namespace MultiSigner.Time.Date

/-! ## 1. The calendar -/

/-- The place of a day within four hundred years: its century, group of four years, year and day.
Only the last year of a group has a leap day, and the last group of a century only in the last
century. -/
structure Place where
  century : Int
  group : Int
  year : Int
  day : Int
  century_bounds : 0 ≤ century ∧ century ≤ 3
  group_bounds : 0 ≤ group ∧ group ≤ 24
  year_bounds : 0 ≤ year ∧ year ≤ 3
  day_bounds : 0 ≤ day ∧ day ≤ 365
  leap : day = 365 → year = 3 ∧ (group = 24 → century = 3)

namespace Place

/-- The day within four hundred years. -/
def toDay (p : Place) : Int :=
  36524 * p.century + 1461 * p.group + 365 * p.year + p.day

/-- The year within four hundred years. -/
def toYear (p : Place) : Int :=
  100 * p.century + 4 * p.group + p.year

/-- Every day has its place. -/
theorem exists_of_day {e : Int} (h0 : 0 ≤ e) (h1 : e < 146097) : ∃ p : Place, p.toDay = e := by
  let century := min (e / 36524) 3
  let inCentury := e - 36524 * century
  let group := inCentury / 1461
  let inGroup := inCentury - 1461 * group
  let year := min (inGroup / 365) 3
  have hcentury : 0 ≤ century ∧ century ≤ 3 := by omega
  have hinCentury : 0 ≤ inCentury ∧ inCentury ≤ 36524 ∧ (century < 3 → inCentury ≤ 36523) := by
    omega
  have hgroup : 0 ≤ group ∧ group ≤ 24 := by omega
  have hinGroup : 0 ≤ inGroup ∧ inGroup ≤ 1460
      ∧ (group = 24 → century < 3 → inGroup ≤ 1459) := by omega
  have hyear : 0 ≤ year ∧ year ≤ 3 := by omega
  refine ⟨⟨century, group, year, inGroup - 365 * year, hcentury, hgroup, hyear, by omega,
    by omega⟩, ?_⟩
  simp only [toDay]
  omega

variable (p : Place)

theorem toDay_bounds : 0 ≤ p.toDay ∧ p.toDay < 146097 := by
  have := p.century_bounds
  have := p.group_bounds
  have := p.year_bounds
  have := p.day_bounds
  have := p.leap
  unfold toDay
  omega

theorem toYear_bounds : 0 ≤ p.toYear ∧ p.toYear ≤ 399 := by
  have := p.century_bounds
  have := p.group_bounds
  have := p.year_bounds
  unfold toYear
  omega

/-- The centuries that are over; the last day is counted as the start of a fifth one, which is
taken off again. -/
theorem century_of_toDay : p.toDay / 36524 - p.toDay / 146096 = p.century := by
  obtain ⟨hc0, hc3⟩ := p.century_bounds
  have hin : 0 ≤ p.toDay - 36524 * p.century ∧ p.toDay - 36524 * p.century ≤ 36524
      ∧ (p.toDay - 36524 * p.century = 36524 → p.century = 3) := by
    have := p.group_bounds
    have := p.year_bounds
    have := p.day_bounds
    have := p.leap
    unfold toDay
    omega
  generalize p.toDay = e at hin ⊢
  by_cases hlast : e - 36524 * p.century = 36524
  · have hc := hin.2.2 hlast
    rw [hc] at hlast ⊢
    obtain rfl : e = 146096 := by omega
    rfl
  · have hcentury : e / 36524 = p.century := by omega
    have hzero : e / 146096 = 0 := by omega
    omega

/-- How `ofDay` finds the year. -/
theorem year_of_toDay :
    (p.toDay - p.toDay / 1460 + p.toDay / 36524 - p.toDay / 146096) / 365 = p.toYear := by
  -- A leap day is taken off for each 1460 days, which is one too many towards the end of a group.
  have hfour : ∃ ahead, p.toDay / 1460 = 25 * p.century + p.group + ahead
      ∧ 0 ≤ p.day - ahead ∧ p.day - ahead ≤ 364 := by
    have := p.century_bounds
    have := p.group_bounds
    have := p.year_bounds
    have := p.day_bounds
    have := p.leap
    refine ⟨(24 * p.century + p.group + 365 * p.year + p.day) / 1460, ?_, by omega, by omega⟩
    unfold toDay
    omega
  obtain ⟨ahead, hfour, hlow, hhigh⟩ := hfour
  have hcentury := p.century_of_toDay
  have hsum : p.toDay - p.toDay / 1460 + p.toDay / 36524 - p.toDay / 146096
      = 365 * p.toYear + (p.day - ahead) := by
    rw [Int.add_sub_assoc, hcentury, hfour, toDay, toYear]
    omega
  rw [hsum]
  omega

/-- How `ofDay` finds the day of the year. -/
theorem day_of_toDay :
    p.toDay - (365 * p.toYear + p.toYear / 4 - p.toYear / 100) = p.day := by
  have := p.century_bounds
  have := p.group_bounds
  have := p.year_bounds
  unfold toDay toYear
  omega

end Place

/-- How `ofDay` finds the month of a day of the year, counted from March. -/
def monthOf (day : Int) : Int :=
  (5 * day + 2) / 153

theorem monthOf_bounds {day : Int} (h0 : 0 ≤ day) (h1 : day ≤ 365) :
    0 ≤ monthOf day ∧ monthOf day ≤ 11 ∧ (153 * monthOf day + 2) / 5 ≤ day := by
  unfold monthOf
  omega

/-- **The date of a day**, from its place within four hundred years.  January and February belong
to the next year. -/
theorem ofDay_of_place {n era : Int} {p : Place} (h : n + 719468 = 146097 * era + p.toDay) :
    ofDay n = if monthOf p.day < 10
      then ⟨p.toYear + era * 400, (monthOf p.day + 3).toNat,
        (p.day - (153 * monthOf p.day + 2) / 5 + 1).toNat⟩
      else ⟨p.toYear + era * 400 + 1, (monthOf p.day - 9).toNat,
        (p.day - (153 * monthOf p.day + 2) / 5 + 1).toNat⟩ := by
  obtain ⟨h0, h1⟩ := p.toDay_bounds
  obtain ⟨hm0, hm1, -⟩ := monthOf_bounds p.day_bounds.1 p.day_bounds.2
  have hera : (n + 719468) / 146097 = era := by omega
  have hday : (n + 719468) % 146097 = p.toDay := by omega
  have hmonth : (5 * p.day + 2) / 153 = monthOf p.day := rfl
  simp only [ofDay, hera, hday, p.year_of_toDay, p.day_of_toDay, hmonth]
  split
  · rw [if_neg (by omega), Int.add_zero]
  · rw [if_pos (by omega)]

/-- Every day has a place within four hundred years. -/
theorem exists_place (n : Int) :
    ∃ (era : Int) (p : Place), n + 719468 = 146097 * era + p.toDay := by
  have h0 := Int.emod_nonneg (n + 719468) (by decide : (146097 : Int) ≠ 0)
  have h1 := Int.emod_lt_of_pos (n + 719468) (by decide : (0 : Int) < 146097)
  obtain ⟨p, hp⟩ := Place.exists_of_day h0 h1
  exact ⟨(n + 719468) / 146097, p, by omega⟩

/-- **Counting days brings a day back from its date.** -/
theorem toDay_ofDay (n : Int) : (ofDay n).toDay = n := by
  obtain ⟨era, p, hp⟩ := exists_place n
  obtain ⟨hy0, hy1⟩ := p.toYear_bounds
  obtain ⟨hm0, hm1, hstart⟩ := monthOf_bounds p.day_bounds.1 p.day_bounds.2
  have hday := p.day_of_toDay
  rw [ofDay_of_place hp]
  generalize monthOf p.day = m at *
  generalize hy : p.toYear = y at *
  have hera : (y + era * 400) / 400 = era := by omega
  have hyear : (y + era * 400) % 400 = y := by omega
  have hsum : (153 * m + 2) / 5 + ↑(p.day - (153 * m + 2) / 5 + 1).toNat - 1 = p.day := by omega
  split
  · have hspring : ¬ (m + 3).toNat ≤ 2 := by omega
    have hm : ((m + 3).toNat : Int) - 3 = m := by omega
    simp only [toDay, if_neg hspring, hm, hera, hyear, hsum]
    omega
  · have hwinter : (m - 9).toNat ≤ 2 := by omega
    have hm : ((m - 9).toNat : Int) + 9 = m := by omega
    have hback : y + era * 400 + 1 - 1 = y + era * 400 := by omega
    simp only [toDay, if_pos hwinter, hm, hback, hera, hyear, hsum]
    omega

theorem isLeap_of_last {p : Place} (hday : p.day = 365) (era : Int) :
    isLeap (p.toYear + era * 400 + 1) = true := by
  obtain ⟨hyear, hgroup⟩ := p.leap hday
  have := p.century_bounds
  have := p.group_bounds
  simp only [isLeap, Place.toYear, hyear, Bool.and_eq_true, Bool.or_eq_true, decide_eq_true_eq]
  omega

/-- **The date of a day exists.** -/
theorem isValid_ofDay (n : Int) : (ofDay n).isValid = true := by
  obtain ⟨era, p, hp⟩ := exists_place n
  obtain ⟨hd0, hd1⟩ := p.day_bounds
  obtain ⟨hm0, hm1, hstart⟩ := monthOf_bounds hd0 hd1
  have hleap : isLeap (p.toYear + era * 400 + 1) ≠ true → p.day ≠ 365 :=
    fun h hday => h (isLeap_of_last hday era)
  have hmonth : 153 * monthOf p.day ≤ 5 * p.day + 2
      ∧ 5 * p.day + 2 < 153 * monthOf p.day + 153 := by
    unfold monthOf
    omega
  rw [ofDay_of_place hp]
  generalize monthOf p.day = m at *
  split
  · simp only [isValid, monthLength, Bool.and_eq_true, decide_eq_true_eq]
    refine ⟨⟨⟨by omega, by omega⟩, by omega⟩, ?_⟩
    rw [if_neg (by omega)]
    split <;> omega
  · simp only [isValid, monthLength, Bool.and_eq_true, decide_eq_true_eq]
    refine ⟨⟨⟨by omega, by omega⟩, by omega⟩, ?_⟩
    by_cases hfebruary : (m - 9).toNat = 2
    · rw [if_pos hfebruary]
      split
      · omega
      · rename_i hcommon
        have := hleap hcommon
        omega
    · rw [if_neg hfebruary]
      split <;> omega

end MultiSigner.Time.Date

namespace MultiSigner

/-! ## 2. Digits -/

namespace Decimal

theorem length_padded {width n : Nat} (hw : 0 < width) (h : n < 10 ^ width) :
    (padded width n).length = width := by
  have hlen : (digits n).length ≤ width := (Nat.length_toDigits_le_iff (by decide) hw).2 h
  rw [padded, List.length_append, List.length_replicate]
  omega

theorem isDigit_of_mem_padded {width n : Nat} {c : Char} (h : c ∈ padded width n) :
    c.isDigit = true := by
  rw [padded, List.mem_append, List.mem_replicate] at h
  rcases h with ⟨-, rfl⟩ | h
  · rfl
  · exact isDigit_of_mem_digits h

theorem ofDigitChars_padded (width n : Nat) : Nat.ofDigitChars 10 (padded width n) 0 = n :=
  (ofDigits?_eq_some_iff.1 (ofDigits?_padded width n)).2

end Decimal

namespace Timestamp

open Decimal (padded)
open Time (Date)

theorem takeDigits_padded (count n : Nat) (hc : 0 < count) (h : n < 10 ^ count)
    (rest : List Char) : takeDigits count (padded count n ++ rest) = some (n, rest) := by
  have hlen := Decimal.length_padded hc h
  have hdigits : (padded count n).all Char.isDigit = true :=
    List.all_eq_true.2 fun c => Decimal.isDigit_of_mem_padded
  rw [takeDigits, List.take_left' hlen, List.drop_left' hlen, if_pos ⟨hlen, hdigits⟩,
    Decimal.ofDigitChars_padded]

theorem takeChar_cons (c : Char) (rest : List Char) : takeChar c (c :: rest) = some rest :=
  if_pos rfl

/-! ## 3. The fraction and the distance to universal time -/

/-- A text that goes on neither with a digit nor with a fraction. -/
def EndsDigits (rest : List Char) : Prop :=
  ∀ c ∈ rest.head?, c.isDigit = false ∧ c ≠ '.'

/-- The digits of a fraction without the zeros at its end. -/
def trimmed (nanos : Nat) : List Char :=
  (padded 9 nanos).rdropWhile (· = '0')

/-- The zeros that were left out can be put back. -/
theorem padded_eq_trimmed (nanos : Nat) :
    ∃ zeros, padded 9 nanos = trimmed nanos ++ List.replicate zeros '0' := by
  refine ⟨((padded 9 nanos).rtakeWhile (· = '0')).length, ?_⟩
  have hzeros : (padded 9 nanos).rtakeWhile (· = '0')
      = List.replicate ((padded 9 nanos).rtakeWhile (· = '0')).length '0' :=
    List.eq_replicate_iff.2 ⟨rfl, fun c hc => by simpa using List.mem_rtakeWhile_imp hc⟩
  rw [← hzeros]
  exact (List.rdropWhile_append_rtakeWhile).symm

theorem trimmed_ne_nil {nanos : Nat} (h : nanos ≠ 0) : trimmed nanos ≠ [] := by
  obtain ⟨zeros, hpadded⟩ := padded_eq_trimmed nanos
  intro hnil
  have hvalue := Decimal.ofDigitChars_padded 9 nanos
  rw [hpadded, hnil, List.nil_append, Nat.ofDigitChars_replicate_zero] at hvalue
  exact h (by omega)

/-- **The fraction is read back.** -/
theorem takeFraction_chars {nanos : Nat} (h : nanos < 10 ^ 9) {rest : List Char}
    (hrest : EndsDigits rest) :
    takeFraction (fractionChars nanos ++ rest) = some (nanos, rest) := by
  unfold fractionChars
  split
  · rename_i hzero
    rw [hzero, List.nil_append]
    unfold takeFraction
    split
    · exact absurd rfl (hrest '.' rfl).2
    · rfl
  · rename_i hpos
    obtain ⟨zeros, hpadded⟩ := padded_eq_trimmed nanos
    have hdigits : ∀ c ∈ trimmed nanos, c.isDigit = true := fun c hc =>
      Decimal.isDigit_of_mem_padded (hpadded ▸ List.mem_append_left _ hc)
    obtain ⟨htake, hdrop⟩ := span_append hdigits fun c hc => (hrest c hc).1
    have hlen : (trimmed nanos).length + zeros = 9 := by
      have hlen := Decimal.length_padded (by decide) h
      rwa [hpadded, List.length_append, List.length_replicate] at hlen
    have hnine : (trimmed nanos ++ List.replicate 9 '0').take 9 = padded 9 nanos := by
      have hleft : min (9 - (trimmed nanos).length) 9 = zeros := by omega
      rw [List.take_append, List.take_of_length_le (by omega), List.take_replicate, hleft, hpadded]
    change takeFraction ('.' :: (trimmed nanos ++ rest)) = _
    rw [takeFraction, htake, hdrop, hnine]
    refine (if_neg ?_).trans (by simp only [Decimal.ofDigitChars_padded])
    rw [List.isEmpty_iff]
    exact trimmed_ne_nil hpos

theorem endsDigits_offsetChars (offset : Int) : EndsDigits (offsetChars offset) := by
  unfold offsetChars
  split
  · rintro c ⟨⟩
    decide
  · split <;>
    · rintro c ⟨⟩
      decide

/-- **The distance to universal time is read back.** -/
theorem takeOffset_chars {offset : Int} (h : offset.natAbs < 1440) :
    takeOffset (offsetChars offset) = some (offset, []) := by
  unfold offsetChars
  split
  · rename_i hzero
    rw [hzero]
    rfl
  · rename_i hne
    have hhours := takeDigits_padded 2 (offset.natAbs / 60) (by decide) (by omega)
    have hminutes := takeDigits_padded 2 (offset.natAbs % 60) (by decide) (by omega) []
    rw [List.append_nil] at hminutes
    have hbound : offset.natAbs / 60 < 24 := by omega
    have hbelow : offset.natAbs % 60 < 60 := Nat.mod_lt _ (by decide)
    have htotal : Int.ofNat (60 * (offset.natAbs / 60) + offset.natAbs % 60) = offset.natAbs := by
      rw [Nat.div_add_mod]
      rfl
    by_cases hneg : offset < 0
    · simp only [if_pos hneg, takeOffset, hhours, takeChar_cons, hminutes, guard, if_pos hbound,
        if_pos hbelow, htotal, Option.bind_eq_bind, Option.bind_some, Option.pure_def]
      rw [if_neg (by decide), if_pos (by decide), if_pos trivial,
        Int.ofNat_natAbs_of_nonpos (by omega), Int.neg_neg]
    · simp only [if_neg hneg, takeOffset, hhours, takeChar_cons, hminutes, guard, if_pos hbound,
        if_pos hbelow, htotal, Option.bind_eq_bind, Option.bind_some, Option.pure_def]
      rw [if_neg (by decide), if_pos (by decide), if_neg (by decide),
        Int.natAbs_of_nonneg (by omega)]

/-! ## 4. Timestamps -/

/-- A timestamp that can be written, with a distance to universal time below a day. -/
structure Representable (t : Timestamp) : Prop where
  text : t.text?.isSome = true
  offset : t.offset.natAbs < 1440

/-- The months and days of dates have two digits. -/
theorem two_digits {d : Date} (h : d.isValid = true) : d.month < 100 ∧ d.day < 100 := by
  simp only [Date.isValid, Bool.and_eq_true, decide_eq_true_eq] at h
  have hlength : Date.monthLength d.year d.month ≤ 31 := by
    unfold Date.monthLength
    split <;> split <;> decide
  omega

/-- What is read from the parts of a timestamp. -/
theorem ofString?_parts {date : Date} {hour minute sec fraction : Nat} {offset : Int}
    (hyear : 0 ≤ date.year ∧ date.year ≤ 9999) (hdate : date.isValid = true)
    (hclock : hour < 24 ∧ minute < 60 ∧ sec < 60) (hfraction : fraction < 10 ^ 9)
    (hoffset : offset.natAbs < 1440) :
    ofString? (String.ofList (
      padded 4 date.year.toNat ++ '-' :: (padded 2 date.month ++ '-' :: (padded 2 date.day
      ++ 'T' :: (padded 2 hour ++ ':' :: (padded 2 minute ++ ':' :: (padded 2 sec
      ++ fractionChars fraction ++ offsetChars offset)))))))
      = some ⟨ofDate date + (Int.ofNat (3600 * hour + 60 * minute + sec) - offset * 60) * second
        + Int.ofNat fraction, offset⟩ := by
  obtain ⟨hmonth, hday⟩ := two_digits hdate
  have hy := takeDigits_padded 4 date.year.toNat (by decide) (by omega)
  have hm := takeDigits_padded 2 date.month (by decide) hmonth
  have hd := takeDigits_padded 2 date.day (by decide) hday
  have hh := takeDigits_padded 2 hour (by decide) (by omega)
  have hmin := takeDigits_padded 2 minute (by decide) (by omega)
  have hs := takeDigits_padded 2 sec (by decide) (by omega)
  have hf := takeFraction_chars hfraction (endsDigits_offsetChars offset)
  have hwhole : (⟨date.year.toNat, date.month, date.day⟩ : Date) = date := by
    rw [Int.toNat_of_nonneg hyear.1]
  have hclock' : hour < 24 ∧ minute < 60 ∧ sec < 61 := by omega
  have hleap : decide (sec = 60) = false := decide_eq_false (by omega)
  rw [ofString?, String.toList_ofList, List.append_assoc]
  refine Option.bind_eq_some_iff.2 ⟨_, hy _, ?_⟩
  refine Option.bind_eq_some_iff.2 ⟨_, takeChar_cons _ _, ?_⟩
  refine Option.bind_eq_some_iff.2 ⟨_, hm _, ?_⟩
  refine Option.bind_eq_some_iff.2 ⟨_, takeChar_cons _ _, ?_⟩
  refine Option.bind_eq_some_iff.2 ⟨_, hd _, ?_⟩
  refine Option.bind_eq_some_iff.2 ⟨_, rfl, ?_⟩
  refine Option.bind_eq_some_iff.2 ⟨_, hh _, ?_⟩
  refine Option.bind_eq_some_iff.2 ⟨_, takeChar_cons _ _, ?_⟩
  refine Option.bind_eq_some_iff.2 ⟨_, hmin _, ?_⟩
  refine Option.bind_eq_some_iff.2 ⟨_, takeChar_cons _ _, ?_⟩
  refine Option.bind_eq_some_iff.2 ⟨_, hs _, ?_⟩
  refine Option.bind_eq_some_iff.2 ⟨_, hf, ?_⟩
  refine Option.bind_eq_some_iff.2 ⟨_, takeOffset_chars hoffset, ?_⟩
  simp only [hwhole, hleap, guard, hdate, List.isEmpty_nil, if_true, if_pos hclock', if_false,
    Bool.not_false, Bool.true_or, Bool.false_eq_true, Option.bind_eq_bind, Option.bind_some,
    Option.pure_def]

/-- **A timestamp is read from its text.** -/
theorem ofString?_text {t : Timestamp} (h : t.Representable) :
    ∃ text, t.text? = some text ∧ ofString? text = some t := by
  have hwritten := h.text
  unfold text? at hwritten ⊢
  simp only at hwritten ⊢
  split at hwritten
  · rename_i hyear
    rw [if_pos hyear]
    refine ⟨_, rfl, ?_⟩
    have hseconds : second = 1000000000 := rfl
    have hfraction : ((t.nanos + t.offset * 60 * second) % second).toNat < 10 ^ 9 := by
      rw [hseconds]
      omega
    rw [ofString?_parts hyear (Date.isValid_ofDay _) (by omega) hfraction h.offset, ofDate,
      Date.toDay_ofDay]
    obtain ⟨nanos, offset⟩ := t
    simp only [Option.some.injEq, mk.injEq, and_true, Int.ofNat_eq_natCast, hseconds]
    omega
  · cases hwritten

end Timestamp
end MultiSigner
