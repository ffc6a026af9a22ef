import SplitExport.Calendar.Date

/-!
# Civil years — day counts before and beyond the years of dates

* Days can be counted over the years from `firstCivilYear` to `lastCivilYear`, and some of these counts are
  no dates: dates have the years 1 to 9999.
* The calendar repeats itself every 400 years, so `civilYear` finds the year of a count in the first 400.
* `Date.ofCount` gives the date of a count; `DayError` says why there is none.
-/

namespace SplitExport.Calendar

open SplitExport.Text

/-! ## Causes -/

/-- Why a count of days has no date. -/
inductive DayError where
  /-- No year whose days are counted has it. -/
  | beyondYears
  /-- It lies in a year without dates. -/
  | yearOutOfRange (year : Int)
deriving DecidableEq, Repr

namespace DayError

/-- The cause in words. -/
def message : DayError → String
  | .beyondYears => "out-of-range date"
  | .yearOutOfRange year => "year " ++ intText year ++ " is out of range"

/-- The name of the class of errors that a cause belongs to. -/
def kind : DayError → String
  | .beyondYears => "PanicException"
  | .yearOutOfRange _ => "ValueError"

/-- Whether nobody handles a cause: leaving the years that are counted ends the work. -/
def isFatal : DayError → Bool
  | .beyondYears => true
  | .yearOutOfRange _ => false

end DayError

/-! ## Day counts over all years -/

/-- The days of 400 years. -/
def daysInCycle : Int := 146097

/-- The years between 1 and 400 that agree with a year on the calendar. -/
def cycleYear (year : Int) : Nat :=
  ((year - 1).emod 400).toNat + 1

/-- The days from 0001-01-01 to the first of a month of any year. -/
def daysBefore (year : Int) (month : Nat) : Int :=
  (year - 1).ediv 400 * daysInCycle + daysBeforeYear (cycleYear year) +
    daysBeforeMonth (cycleYear year) month

/-- The year of a count of days from 0001-01-01, which may be negative. -/
def civilYear (ordinal : Int) : Int :=
  ordinal.ediv daysInCycle * 400 + yearOfOrdinal (ordinal.emod daysInCycle).toNat

/-- The first year whose days are counted. -/
def firstCivilYear : Int := -262143

/-- The last of these years. -/
def lastCivilYear : Int := 262142

/-- The date of a count of days from 0001-01-01. -/
def Date.ofCount (ordinal : Int) : Except DayError Date :=
  let year := civilYear ordinal
  if year < firstCivilYear ∨ lastCivilYear < year then .error .beyondYears
  else if 0 ≤ ordinal ∧ year ≤ Date.lastYear then .ok (Date.ofOrdinal ordinal.toNat)
  else .error (.yearOutOfRange year)

end SplitExport.Calendar
