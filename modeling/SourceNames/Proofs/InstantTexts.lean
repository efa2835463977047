-- The text of an instant tells the instant. It is made of numbers, each of which but the fraction
-- has its fixed width, so that they can be told from the left one after the other. A date and a
-- time of day are told by their numbers, and an instant by its day and its time of day.

import Mathlib.Algebra.Group.Nat.Defs
import SourceNames.Proofs.Calendar

namespace SourceNames

/-! ## Numbers of a width -/

section Numbers

variable {width m n : Nat} {rest rest' : String}

theorem length_zeroPadded (hwidth : 0 < width) (h : n < 10 ^ width) :
    (zeroPadded width n).length = width := by
  have hdigits := (Nat.length_toDigits_le_iff (b := 10) (by decide) hwidth).mpr h
  unfold zeroPadded
  rw [String.length_ofList, List.length_append, List.length_replicate]
  omega

/-- A number is read back from its digits, whatever zeros stand before them. -/
theorem ofDigitChars_zeroPadded (width n : Nat) :
    Nat.ofDigitChars 10 (zeroPadded width n).toList 0 = n := by
  unfold zeroPadded
  simp only [String.toList_ofList, Nat.ofDigitChars_append, Nat.ofDigitChars_replicate_zero,
    Nat.ofDigitChars_ten_toDigits, Nat.mul_zero]

theorem zeroPadded_injective (h : zeroPadded width m = zeroPadded width n) : m = n := by
  rw [← ofDigitChars_zeroPadded width m, h, ofDigitChars_zeroPadded]

/-- Numbers that fit a width are told apart whatever stands after them. -/
theorem zeroPadded_append_inj (hwidth : 0 < width) (hm : m < 10 ^ width) (hn : n < 10 ^ width)
    (h : zeroPadded width m ++ rest = zeroPadded width n ++ rest') : m = n ∧ rest = rest' := by
  have hlength : (zeroPadded width m).toList.length = (zeroPadded width n).toList.length := by
    rw [String.length_toList, String.length_toList, length_zeroPadded hwidth hm,
      length_zeroPadded hwidth hn]
  have hlist := congrArg String.toList h
  rw [String.toList_append, String.toList_append] at hlist
  obtain ⟨hdigits, hrest⟩ := List.append_inj hlist hlength
  exact ⟨zeroPadded_injective (String.toList_injective hdigits), String.toList_injective hrest⟩

/-- Numbers before a mark are told apart with what stands after the mark. -/
theorem zeroPadded_mark_inj {mark : String} (hwidth : 0 < width) (hm : m < 10 ^ width)
    (hn : n < 10 ^ width)
    (h : zeroPadded width m ++ (mark ++ rest) = zeroPadded width n ++ (mark ++ rest')) :
    m = n ∧ rest = rest' := by
  obtain ⟨hnumber, hrest⟩ := zeroPadded_append_inj hwidth hm hn h
  exact ⟨hnumber, (String.append_right_inj mark).mp hrest⟩

end Numbers

/-! ## Dates -/

namespace CalendarDate

/-- A date that four digits, two and two can write. -/
structure Writable (date : CalendarDate) : Prop where
  year : 0 ≤ date.year ∧ date.year < 10000
  month : 0 ≤ date.month ∧ date.month < 100
  day : 0 ≤ date.day ∧ date.day < 100

/-- How a date is written. -/
def text (date : CalendarDate) : String :=
  zeroPadded 4 date.year.toNat ++ "-" ++ zeroPadded 2 date.month.toNat ++ "-"
    ++ zeroPadded 2 date.day.toNat

variable {date other : CalendarDate} {rest rest' : String}

theorem text_append_inj (hdate : date.Writable) (hother : other.Writable)
    (h : date.text ++ rest = other.text ++ rest') : date = other ∧ rest = rest' := by
  obtain ⟨hyear, hmonth, hday⟩ := hdate
  obtain ⟨hyear', hmonth', hday'⟩ := hother
  unfold text at h
  simp only [String.append_assoc] at h
  obtain ⟨heqYear, h⟩ := zeroPadded_mark_inj (by decide) (by omega) (by omega) h
  obtain ⟨heqMonth, h⟩ := zeroPadded_mark_inj (by decide) (by omega) (by omega) h
  obtain ⟨heqDay, h⟩ := zeroPadded_append_inj (by decide) (by omega) (by omega) h
  have hsame : date.year = other.year ∧ date.month = other.month ∧ date.day = other.day := by
    omega
  refine ⟨?_, h⟩
  cases date
  cases other
  rw [mk.injEq]
  exact hsame

end CalendarDate

/-! ## Times of day -/

/-- The fraction of a second, which is left out if it is zero. -/
def fractionText (fraction : Nat) : String :=
  if fraction = 0 then "" else "." ++ zeroPadded 6 fraction

/-- How a time of day is written, given in microseconds. -/
def timeText (ofDay : Nat) : String :=
  let seconds := ofDay / 1000000
  zeroPadded 2 (seconds / 3600) ++ ":" ++ zeroPadded 2 (seconds / 60 % 60) ++ ":"
    ++ zeroPadded 2 (seconds % 60) ++ fractionText (ofDay % 1000000)

theorem fractionText_injective {m n : Nat} (h : fractionText m = fractionText n) : m = n := by
  have hpoint : ∀ digits : String, "" ≠ "." ++ digits := by
    intro digits hempty
    simpa using congrArg String.toList hempty
  unfold fractionText at h
  by_cases hm : m = 0
  · by_cases hn : n = 0
    · rw [hm, hn]
    · rw [if_pos hm, if_neg hn] at h
      exact absurd h (hpoint _)
  · by_cases hn : n = 0
    · rw [if_neg hm, if_pos hn] at h
      exact absurd h.symm (hpoint _)
    · rw [if_neg hm, if_neg hn, String.append_right_inj] at h
      exact zeroPadded_injective h

theorem timeText_injective {m n : Nat} (hm : m < 86400000000) (hn : n < 86400000000)
    (h : timeText m = timeText n) : m = n := by
  unfold timeText at h
  simp only [String.append_assoc] at h
  obtain ⟨heqHours, h⟩ := zeroPadded_mark_inj (by decide) (by omega) (by omega) h
  obtain ⟨heqMinutes, h⟩ := zeroPadded_mark_inj (by decide) (by omega) (by omega) h
  obtain ⟨heqSeconds, h⟩ := zeroPadded_append_inj (by decide) (by omega) (by omega) h
  have heqFraction := fractionText_injective h
  omega

/-! ## Instants -/

namespace Timestamp

/-- The date that an instant falls on. -/
def date (t : Timestamp) : CalendarDate := .ofDays (t.micros / perDay)

/-- The microseconds of its day that have passed at an instant. -/
def ofDay (t : Timestamp) : Nat := (t.micros % perDay).toNat

theorem ofDay_lt (t : Timestamp) : t.ofDay < 86400000000 := by
  have hlt : t.micros % perDay < perDay := Int.emod_lt_of_pos _ (by decide)
  rw [show perDay = 86400000000 from rfl] at hlt
  unfold ofDay
  rw [show perDay = 86400000000 from rfl]
  omega

theorem writable_date (t : Timestamp) : t.date.Writable := by
  have hyear := (yearOf_iff t.micros).mpr ⟨t.notBefore, t.before⟩
  have hmonth := CalendarDate.month_ofDays (t.micros / perDay)
  have hday := CalendarDate.day_ofDays (t.micros / perDay)
  unfold yearOf at hyear
  unfold date
  exact ⟨by omega, by omega, by omega⟩

theorem text_eq (t : Timestamp) :
    t.text = t.date.text ++ ("T" ++ (timeText t.ofDay ++ "+00:00")) := by
  unfold text CalendarDate.text timeText fractionText date ofDay
  simp only [String.append_assoc]

/-- An instant is told by its date and the time of its day. -/
theorem eq_of_date_of_ofDay {t u : Timestamp} (hdate : t.date = u.date)
    (hofDay : t.ofDay = u.ofDay) : t = u := by
  have hday : t.micros / perDay = u.micros / perDay := by
    have hdays := congrArg CalendarDate.days hdate
    unfold date at hdays
    rwa [CalendarDate.days_ofDays, CalendarDate.days_ofDays] at hdays
  have hrest : t.micros % perDay = u.micros % perDay := by
    have hpos : perDay ≠ 0 := by decide
    have ht := Int.emod_nonneg t.micros hpos
    have hu := Int.emod_nonneg u.micros hpos
    unfold ofDay at hofDay
    omega
  have hmicros : t.micros = u.micros := by
    rw [← Int.mul_ediv_add_emod t.micros perDay, hday, hrest, Int.mul_ediv_add_emod]
  cases t
  cases u
  rw [mk.injEq]
  exact hmicros

/-- No two instants have the same text. -/
theorem text_injective {t u : Timestamp} (h : t.text = u.text) : t = u := by
  rw [text_eq, text_eq] at h
  obtain ⟨hdate, h⟩ := CalendarDate.text_append_inj t.writable_date u.writable_date h
  rw [String.append_right_inj, String.append_left_inj] at h
  exact eq_of_date_of_ofDay hdate (timeText_injective t.ofDay_lt u.ofDay_lt h)

/-- A leap day, and the last instant that can be told. -/
example :
    (Timestamp.mk 951782400000000 (by decide) (by decide)).text = "2000-02-29T00:00:00+00:00" ∧
      (Timestamp.mk (endOfTime - 1) (by decide) (by decide)).text =
        "9999-12-31T23:59:59.999999+00:00" := by
  decide +kernel

end Timestamp

end SourceNames
