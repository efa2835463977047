-- Instants of universal time in microseconds, the calendar date they fall on, and their
-- text. An instant lies in the years 1 to 9999, which four digits can write.

import SourceNames.Number.Binary64

namespace SourceNames

/-! ## Calendar -/

structure CalendarDate where
  year : Int
  month : Int
  day : Int
  deriving DecidableEq, Repr

/-- The date a number of days after the first of January 1970. Years are counted from the
first of March, so that a leap day is the last day of its year, in cycles of 400. -/
def CalendarDate.ofDays (days : Int) : CalendarDate :=
  let shifted := days + 719468
  let cycle := shifted / 146097
  let dayOfCycle := shifted % 146097
  let yearOfCycle :=
    (dayOfCycle - dayOfCycle / 1460 + dayOfCycle / 36524 - dayOfCycle / 146096) / 365
  let dayOfYear := dayOfCycle - (365 * yearOfCycle + yearOfCycle / 4 - yearOfCycle / 100)
  let monthFromMarch := (5 * dayOfYear + 2) / 153
  let month := if monthFromMarch < 10 then monthFromMarch + 3 else monthFromMarch - 9
  { year := yearOfCycle + 400 * cycle + (if month ≤ 2 then 1 else 0)
    month
    day := dayOfYear - (153 * monthFromMarch + 2) / 5 + 1 }

def perSecond : Int := 1000000

def perDay : Int := 86400 * perSecond

/-- The first instant of the year 1. -/
def firstInstant : Int := -62135596800 * perSecond

/-- The first instant after the year 9999. -/
def endOfTime : Int := 253402300800 * perSecond

/-! ## Instants -/

/-- An instant, in microseconds from the start of 1970. -/
structure Timestamp where
  micros : Int
  notBefore : firstInstant ≤ micros
  before : micros < endOfTime
  deriving DecidableEq, Repr

/-- The instant a number of microseconds from the start of 1970, if a year from 1 to 9999
holds it, and else the year that does. -/
def Timestamp.ofMicros (micros : Int) : Except Int Timestamp :=
  if h : firstInstant ≤ micros ∧ micros < endOfTime then .ok ⟨micros, h.1, h.2⟩
  else .error (CalendarDate.ofDays (micros / perDay)).year

/-- A number with zeros before it up to a width. -/
def zeroPadded (width : Nat) (n : Nat) : String :=
  let digits := Nat.toDigits 10 n
  String.ofList (List.replicate (width - digits.length) '0' ++ digits)

/-- The text of an instant: date, time, a six-digit fraction if it is not zero, and the
offset of universal time. -/
def Timestamp.text (t : Timestamp) : String :=
  let date := CalendarDate.ofDays (t.micros / perDay)
  let ofDay := (t.micros % perDay).toNat
  let seconds := ofDay / 1000000
  let fraction := ofDay % 1000000
  zeroPadded 4 date.year.toNat ++ "-" ++ zeroPadded 2 date.month.toNat ++ "-"
    ++ zeroPadded 2 date.day.toNat ++ "T" ++ zeroPadded 2 (seconds / 3600) ++ ":"
    ++ zeroPadded 2 (seconds / 60 % 60) ++ ":" ++ zeroPadded 2 (seconds % 60)
    ++ (if fraction = 0 then "" else "." ++ zeroPadded 6 fraction) ++ "+00:00"

/-! ## Stored times -/

/-- A time as a disk reports it. It is stored as a binary number of seconds, so that far from
1970 it is only near to the time it was set to; read back, the whole seconds stay and the
rest is rounded to microseconds. -/
def storedTime (micros : Int) : Int :=
  match Binary64.nearest (decide (micros < 0)) micros.natAbs 1000000 with
  | .finite negative mantissa exponent =>
    let scaled := dividedByPower mantissa 1 (-exponent)
    let whole := scaled.1 / scaled.2
    let part := Binary64.nearest false (scaled.1 % scaled.2 * 1000000) scaled.2
    let rounded :=
      match part with
      | .finite _ m e =>
        let ratio := dividedByPower m 1 (-e)
        roundHalfEven ratio.1 ratio.2
      | _ => 0
    let size : Int := whole * 1000000 + rounded
    if negative then -size else size
  | _ => micros

end SourceNames
