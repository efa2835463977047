-- Which dates days fall on, and which instants can be told. Years are counted from the first of
-- March, and the date of a day is told by that year and the days since, so no two days share a
-- date. The instants that can be told are those that fall in the years that four digits write,
-- so the bounds that an instant is checked against are the ends of the calendar.

import Mathlib.Tactic.SplitIfs
import SourceNames.Resolver

namespace SourceNames

/-! ## Dates -/

namespace CalendarDate

/-- The date that lies a number of days after the first of March of a year. -/
def ofMarch (year dayOfYear : Int) : CalendarDate :=
  let monthFromMarch := (5 * dayOfYear + 2) / 153
  let month := if monthFromMarch < 10 then monthFromMarch + 3 else monthFromMarch - 9
  { year := year + (if month ≤ 2 then 1 else 0)
    month
    day := dayOfYear - (153 * monthFromMarch + 2) / 5 + 1 }

/-- The days from the first of March of the year 0 to that of another year: 365 for each year, and
one more for each of them that has a leap day. -/
def daysBefore (year : Int) : Int :=
  365 * year + year / 4 - year / 100 + year / 400

/-- The number of the day that a date falls on, the first of January 1970 being day 0. -/
def days (date : CalendarDate) : Int :=
  let year := if date.month ≤ 2 then date.year - 1 else date.year
  let monthFromMarch := if date.month ≤ 2 then date.month + 9 else date.month - 3
  daysBefore year + (153 * monthFromMarch + 2) / 5 + date.day - 1 - 719468

theorem dayOfYear_bounds {day year : Int} (hfirst : 0 ≤ day) (hlast : day < 146097)
    (hyear : year = (day - day / 1460 + day / 36524 - day / 146096) / 365) :
    0 ≤ day - (365 * year + year / 4 - year / 100) ∧
      day - (365 * year + year / 4 - year / 100) ≤ 365 := by
  -- Within one century the leap days are those of every fourth year.
  have hcentury : year / 100 = 0 ∨ year / 100 = 1 ∨ year / 100 = 2 ∨ year / 100 = 3 := by omega
  rcases hcentury with h | h | h | h <;> omega

/-- Each day lies in a year that starts in March, at most 365 days after its first one. -/
theorem ofDays_eq_ofMarch (day : Int) : ∃ year dayOfYear : Int,
    0 ≤ dayOfYear ∧ dayOfYear ≤ 365 ∧ day + 719468 = daysBefore year + dayOfYear ∧
      ofDays day = ofMarch year dayOfYear := by
  have hsplit := Int.mul_ediv_add_emod (day + 719468) 146097
  have hnonneg : 0 ≤ (day + 719468) % 146097 := Int.emod_nonneg _ (by decide)
  have hlt : (day + 719468) % 146097 < 146097 := Int.emod_lt_of_pos _ (by decide)
  unfold ofDays
  simp only
  generalize (day + 719468) / 146097 = cycle at *
  generalize (day + 719468) % 146097 = d at *
  obtain ⟨y, hy⟩ : ∃ y, y = (d - d / 1460 + d / 36524 - d / 146096) / 365 := ⟨_, rfl⟩
  rw [← hy]
  obtain ⟨hfirst, hlast⟩ := dayOfYear_bounds hnonneg hlt hy
  have hrange : 0 ≤ y ∧ y ≤ 399 := by omega
  -- A cycle of 400 years has 97 leap days.
  have h4 : (y + 400 * cycle) / 4 = y / 4 + 100 * cycle := by omega
  have h100 : (y + 400 * cycle) / 100 = y / 100 + 4 * cycle := by omega
  have h400 : (y + 400 * cycle) / 400 = cycle := by omega
  refine ⟨y + 400 * cycle, d - (365 * y + y / 4 - y / 100), hfirst, hlast, ?_, rfl⟩
  unfold daysBefore
  omega

theorem days_ofMarch {year dayOfYear : Int} (hfirst : 0 ≤ dayOfYear) (hlast : dayOfYear ≤ 365) :
    (ofMarch year dayOfYear).days + 719468 = daysBefore year + dayOfYear := by
  unfold ofMarch days
  simp only
  obtain ⟨m, hm⟩ : ∃ m, m = (5 * dayOfYear + 2) / 153 := ⟨_, rfl⟩
  rw [← hm]
  have hrange : 0 ≤ m ∧ m ≤ 11 := by omega
  by_cases hbefore : m < 10
  · have hmonth : ¬ m + 3 ≤ 2 := by omega
    simp only [hbefore, hmonth, if_true, if_false, Int.add_zero, Int.add_sub_cancel]
    omega
  · have hmonth : m - 9 ≤ 2 := by omega
    simp only [hbefore, hmonth, if_true, if_false, Int.add_sub_cancel, Int.sub_add_cancel]
    omega

/-- The day of a date is the day that the date was told for, so no two days share a date. -/
theorem days_ofDays (day : Int) : (ofDays day).days = day := by
  obtain ⟨year, dayOfYear, hfirst, hlast, hday, hdate⟩ := ofDays_eq_ofMarch day
  have hdays : (ofMarch year dayOfYear).days + 719468 = daysBefore year + dayOfYear :=
    days_ofMarch hfirst hlast
  rw [hdate]
  omega

theorem month_ofDays (day : Int) : 1 ≤ (ofDays day).month ∧ (ofDays day).month ≤ 12 := by
  obtain ⟨year, dayOfYear, hfirst, hlast, -, hdate⟩ := ofDays_eq_ofMarch day
  rw [hdate]
  unfold ofMarch
  simp only
  split_ifs <;> omega

theorem day_ofDays (day : Int) : 1 ≤ (ofDays day).day ∧ (ofDays day).day ≤ 31 := by
  obtain ⟨year, dayOfYear, hfirst, hlast, -, hdate⟩ := ofDays_eq_ofMarch day
  rw [hdate]
  unfold ofMarch
  simp only
  omega

end CalendarDate

/-! ## The years of four digits -/

/-- The year that a number of microseconds from the start of 1970 falls in. -/
def yearOf (micros : Int) : Int := (CalendarDate.ofDays (micros / perDay)).year

/-- The first and the last day of the years that four digits write. -/
theorem year_ofDays_iff (days : Int) :
    (1 ≤ (CalendarDate.ofDays days).year ∧ (CalendarDate.ofDays days).year ≤ 9999) ↔
      -719162 ≤ days ∧ days < 2932897 := by
  obtain ⟨year, dayOfYear, hfirst, hlast, hdays, hdate⟩ := CalendarDate.ofDays_eq_ofMarch days
  rw [hdate]
  unfold CalendarDate.ofMarch
  unfold CalendarDate.daysBefore at hdays
  simp only
  split_ifs <;> omega

theorem yearOf_iff (micros : Int) :
    (1 ≤ yearOf micros ∧ yearOf micros ≤ 9999) ↔ firstInstant ≤ micros ∧ micros < endOfTime := by
  unfold yearOf
  rw [year_ofDays_iff]
  have hday : perDay = 86400000000 := rfl
  have hfirst : firstInstant = -62135596800000000 := rfl
  have hend : endOfTime = 253402300800000000 := rfl
  rw [hday, hfirst, hend]
  omega

/-! ## The instant of a change -/

theorem ofMicros_of_bounds {micros : Int} (h : firstInstant ≤ micros ∧ micros < endOfTime) :
    Timestamp.ofMicros micros = .ok ⟨micros, h.1, h.2⟩ := dif_pos h

theorem ofMicros_eq_ok {micros : Int} {instant : Timestamp}
    (h : Timestamp.ofMicros micros = .ok instant) : instant.micros = micros := by
  unfold Timestamp.ofMicros at h
  split_ifs at h
  cases h
  rfl

/-- The time of a change is told just if it falls in those years. -/
theorem instantOf_eq_ok_iff {changed : Int} {instant : Timestamp} :
    instantOf changed = .ok instant ↔
      instant.micros = changed ∧ 1 ≤ yearOf changed ∧ yearOf changed ≤ 9999 := by
  rw [yearOf_iff]
  unfold instantOf
  constructor
  · intro h
    split at h
    · rename_i told htold
      cases h
      obtain rfl := ofMicros_eq_ok htold
      exact ⟨rfl, instant.notBefore, instant.before⟩
    · simp at h
  · rintro ⟨rfl, hbounds⟩
    rw [ofMicros_of_bounds hbounds]

end SourceNames
