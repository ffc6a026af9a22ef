import SplitExport.Calendar.Civil
import SplitExport.Calendar.Clock
import SplitExport.Partition.Offset

/-!
# Partition windows — from the first day of a partition to the day after its last

The end of a window is its start moved by months, with a day that is too large reduced to the last of
its month, and then by weeks, days and parts of days; the time of day that this leads to is dropped.

* Sums of months, weeks, days and nanoseconds are sizes of signed words of 64 bits, and so are counts of
  microseconds. The least word has no size; as a sum of months, weeks or days it moves nothing.
* Dates are counted from `firstCivilYear` to `lastCivilYear`, and a move has to stay among them. The end
  of a window has to be a date, thus lie in the years 1 to 9999.
-/

namespace SplitExport.Partition

open SplitExport.Calendar SplitExport.Text

/-! ## Causes -/

/-- Why a partition has no end. -/
inductive WindowError where
  /-- The period is no offset. -/
  | offset (cause : OffsetError)
  /-- The months lead out of the calendar. -/
  | beyondCalendar (start : Date) (months : Int)
  /-- The end is no date. -/
  | day (cause : DayError)
deriving DecidableEq, Repr

/-- The name of the class of errors that a cause belongs to. -/
def WindowError.kind : WindowError → String
  | .offset _ => "InvalidOperationError"
  | .beyondCalendar .. => "ComputeError"
  | .day cause => cause.kind

/-- Whether nobody handles an error: leaving the calendar by days ends the work. -/
def WindowError.isFatal : WindowError → Bool
  | .day cause => cause.isFatal
  | _ => false

/-! ## Moving -/

/-- The signed word of a number of bits that an integer wraps to. -/
def wrap (bits : Nat) (i : Int) : Int :=
  i.bmod (Nat.pow 2 bits)

/-- The size of a sum as a signed word. -/
def wordSize (sum : Nat) : Int :=
  wrap 64 (wrap 64 sum).natAbs

/-- An amount in a direction. -/
def directed (backward : Bool) (amount : Int) : Int :=
  if backward then -amount else amount

/-- The year of a date moved by a number of months. -/
def movedYear (start : Date) (months : Int) : Int :=
  (start.year * 12 + (start.month - 1 : Nat) + months).ediv 12

/-- The month of a date moved by a number of months. -/
def movedMonth (start : Date) (months : Int) : Nat :=
  ((start.year * 12 + (start.month - 1 : Nat) + months).emod 12).toNat + 1

/-- The day of a date moved by a number of months. -/
def movedDay (start : Date) (months : Int) : Nat :=
  min start.day (daysInMonth (cycleYear (movedYear start months)) (movedMonth start months))

/-- The day count of a date moved by a number of months. -/
def moveByMonths (start : Date) (months : Int) : Except WindowError Int :=
  let year := movedYear start months
  if year < firstCivilYear ∨ lastCivilYear < year then .error (.beyondCalendar start months)
  else .ok (daysBefore year (movedMonth start months) + (movedDay start months - 1 : Nat))

/-- The microseconds of a day. -/
def microsecondsPerDay : Int := 86400000000

/-- A count of microseconds moved by as many times a number of days as an amount says, unless the amount
    is not positive. -/
def moveByDays (backward : Bool) (amount daysEach microseconds : Int) : Int :=
  if 0 < amount then
    wrap 64 (microseconds + directed backward (amount * daysEach * microsecondsPerDay))
  else microseconds

/-- The date moved by an offset. -/
def moveBy (start : Date) (offset : Offset) : Except WindowError Date := do
  let back := offset.backward
  let months := wordSize offset.months
  let moved ← if 0 < months then moveByMonths start (directed back months) else pure (start.ordinal : Int)
  let epoch : Int := Date.epochOrdinal
  let microseconds := (moved - epoch) * microsecondsPerDay
  let microseconds := moveByDays back (wordSize offset.weeks) 7 microseconds
  let microseconds := moveByDays back (wordSize offset.days) 1 microseconds
  let nanoseconds := wrap 64 (directed back (wordSize offset.nanoseconds))
  let microseconds := wrap 64 (microseconds + nanoseconds.tdiv 1000)
  (Date.ofCount (microseconds.fdiv microsecondsPerDay + epoch)).mapError .day

/-- The day after the window of a period that starts at a date. -/
def nextStart (start : Date) (period : String) : Except WindowError Date := do
  moveBy start (← (readOffset period).mapError .offset)

/-! ## Messages -/

/-- Where an error of a move by a period occurred. -/
def occurrenceText (period : String) : String :=
  "\n\nThis error occurred in the following expression:\n\tcol(\"\").dt.offset_by([\"" ++ period ++ "\"])\n"

/-- The cause in words, for the period of the window. -/
def WindowError.message (period : String) : WindowError → String
  | .offset cause => cause.message ++ occurrenceText period
  | .beyondCalendar start months =>
    "cannot advance '" ++ start.iso ++ " 00:00:00' by " ++ intText months ++ " months: date " ++
      "-".intercalate [intText (movedYear start months), paddedNat 2 (movedMonth start months),
        paddedNat 2 (movedDay start months)] ++
      " is out of the supported range" ++ occurrenceText period
  | .day cause => cause.message

end SplitExport.Partition
