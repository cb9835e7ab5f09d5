/-!
# LogVault.Time.Calendar — days and dates

The proleptic Gregorian calendar in both directions, over all integers. A year is counted from March
here, so that the leap day ends it; four hundred years always have 146097 days and start on the same
footing, and day 0 is 1970-01-01.
-/

namespace LogVault.Calendar

/-- A date. The year 0 is the year before the year 1. -/
structure Date where
  year : Int
  month : Nat
  day : Nat
  deriving Repr, DecidableEq

/-- Days from the first of March of the year 0 to 1970-01-01. -/
def epoch : Int := 719468

/-- Days in four hundred years. -/
def daysPerEra : Int := 146097

/-- **The date** of a day. -/
def dateOfDay (day : Int) : Date :=
  let shifted := day + epoch
  let era := shifted / daysPerEra
  let dayOfEra := (shifted % daysPerEra).toNat
  let yearOfEra := (dayOfEra - dayOfEra / 1460 + dayOfEra / 36524 - dayOfEra / 146096) / 365
  let dayOfYear := dayOfEra - (365 * yearOfEra + yearOfEra / 4 - yearOfEra / 100)
  let monthFromMarch := (5 * dayOfYear + 2) / 153
  let month := if monthFromMarch < 10 then monthFromMarch + 3 else monthFromMarch - 9
  { year := era * 400 + yearOfEra + (if month ≤ 2 then 1 else 0)
    month
    day := dayOfYear - (153 * monthFromMarch + 2) / 5 + 1 }

/-- **The day** of a date. -/
def dayOfDate (d : Date) : Int :=
  let year := if d.month ≤ 2 then d.year - 1 else d.year
  let monthFromMarch := if 2 < d.month then d.month - 3 else d.month + 9
  let yearOfEra := (year % 400).toNat
  let dayOfYear := (153 * monthFromMarch + 2) / 5 + d.day - 1
  let dayOfEra := yearOfEra * 365 + yearOfEra / 4 - yearOfEra / 100 + dayOfYear
  year / 400 * daysPerEra + dayOfEra - epoch

end LogVault.Calendar
