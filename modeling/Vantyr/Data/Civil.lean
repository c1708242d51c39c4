import Mathlib.Data.Int.Init

/-!
This module contains the dates of the Gregorian calendar, which are counted in days from the first of
January 1970. The main result is that a day has the date that it is counted from.
-/

namespace Vantyr

namespace Civil

structure Date where
  year : Int
  month : Int
  day : Int
  deriving DecidableEq, Repr

-- Years begin in March, so that the day of a leap year comes last.
def toDays (date : Date) : Int :=
  let year := if date.month ≤ 2 then date.year - 1 else date.year
  let month := if date.month ≤ 2 then date.month + 9 else date.month - 3
  let yearOfEra := year % 400
  let dayOfYear := (153 * month + 2) / 5 + date.day - 1
  let dayOfEra := yearOfEra * 365 + yearOfEra / 4 - yearOfEra / 100 + dayOfYear
  year / 400 * 146097 + dayOfEra - 719468

-- The last year of an era, of four centuries and of four years has a day more than the others.
def ofDays (days : Int) : Date :=
  let dayOfEra := (days + 719468) % 146097
  let century := min (dayOfEra / 36524) 3
  let dayOfCentury := dayOfEra - century * 36524
  let fourYears := dayOfCentury / 1461
  let dayOfFourYears := dayOfCentury - fourYears * 1461
  let last := min (dayOfFourYears / 365) 3
  let dayOfYear := dayOfFourYears - last * 365
  let month := (5 * dayOfYear + 2) / 153
  let year := (days + 719468) / 146097 * 400 + century * 100 + fourYears * 4 + last
  {
    year := if month < 10 then year else year + 1
    month := if month < 10 then month + 3 else month - 9
    day := dayOfYear - (153 * month + 2) / 5 + 1
  }

end Civil

end Vantyr
