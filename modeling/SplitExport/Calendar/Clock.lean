import SplitExport.Calendar.Date

/-!
# Clock times — times of a day, moments and durations

* `TimeOfDay` holds a time to the microsecond, with the proof that the clock shows it; `Moment` is a
  date with a time. Their ISO texts leave out a fraction that is zero.
  `TimeOfDay.shortText` writes a fraction of whole milliseconds with three digits.
* `durationText` writes a number of microseconds as days, hours, minutes and seconds; `unitsText` names
  the unit of each part.
-/

namespace SplitExport.Calendar

open SplitExport.Text

/-! ## Times and moments -/

/-- A time of a day, to the microsecond. -/
structure TimeOfDay where
  hour : Nat
  minute : Nat
  second : Nat
  microsecond : Nat
  on_clock : hour < 24 ∧ minute < 60 ∧ second < 60 ∧ microsecond < 1000000 := by decide
deriving DecidableEq, Repr

/-- A date with a time of that day. -/
structure Moment where
  date : Date
  time : TimeOfDay
deriving DecidableEq, Repr

namespace TimeOfDay

/-- The time with the given parts, if a clock shows it. -/
def ofParts? (hour minute second microsecond : Nat) : Option TimeOfDay :=
  if h : hour < 24 ∧ minute < 60 ∧ second < 60 ∧ microsecond < 1000000 then
    some ⟨hour, minute, second, microsecond, h⟩
  else none

/-- The start of a day. -/
def midnight : TimeOfDay := { hour := 0, minute := 0, second := 0, microsecond := 0 }

/-- The microseconds since the start of the day. -/
def sinceMidnight (t : TimeOfDay) : Nat :=
  ((t.hour * 60 + t.minute) * 60 + t.second) * 1000000 + t.microsecond

/-- The text `HH:MM:SS`, with six digits of a fraction unless it is zero. -/
def iso (t : TimeOfDay) : String :=
  paddedNat 2 t.hour ++ ":" ++ paddedNat 2 t.minute ++ ":" ++ paddedNat 2 t.second ++
    if t.microsecond = 0 then "" else "." ++ paddedNat 6 t.microsecond

/-- The text `HH:MM:SS` with a fraction of three digits if they suffice, and of six otherwise. -/
def shortText (t : TimeOfDay) : String :=
  if t.microsecond ≠ 0 ∧ t.microsecond % 1000 = 0 then
    String.ofList (t.iso.toList.take (t.iso.length - 3))
  else t.iso

/-- The time that is a number of microseconds after midnight, if that is on the same day. -/
def ofMicroseconds? (n : Nat) : Option TimeOfDay :=
  ofParts? (n / 3600000000) (n / 60000000 % 60) (n / 1000000 % 60) (n % 1000000)

/-- The time without the digits of its fraction beyond the milliseconds. -/
def toMilliseconds (t : TimeOfDay) : TimeOfDay where
  hour := t.hour
  minute := t.minute
  second := t.second
  microsecond := t.microsecond / 1000 * 1000
  on_clock := by
    obtain ⟨h1, h2, h3, h4⟩ := t.on_clock
    exact ⟨h1, h2, h3, by omega⟩

end TimeOfDay

namespace Moment

/-- The number of microseconds in a day. -/
def dayLength : Nat := 86400000000

/-- The microseconds from 1970-01-01 to a moment. -/
def sinceEpoch (m : Moment) : Int :=
  m.date.epochDay * dayLength + m.time.sinceMidnight

/-- The moment that is a number of microseconds after 1970-01-01, if its date can be written. -/
def ofEpoch? (microseconds : Int) : Option Moment := do
  let date ← Date.ofEpochDay? (microseconds.ediv dayLength)
  return ⟨date, ← TimeOfDay.ofMicroseconds? (microseconds.emod dayLength).toNat⟩

/-- The text of the date and the text of the time with `separator` between them. -/
def isoWith (separator : String) (m : Moment) : String :=
  m.date.iso ++ separator ++ m.time.iso

/-- The ISO text. -/
def iso (m : Moment) : String :=
  m.isoWith "T"

end Moment

/-! ## Durations -/

/-- A number of microseconds as days, and hours, minutes and seconds of a day; days may be
    negative. -/
def durationText (microseconds : Int) : String :=
  let perDay : Int := 86400000000
  let days := microseconds.fdiv perDay
  let rest := (microseconds - days * perDay).toNat
  let daysText :=
    if days = 0 then ""
    else intText days ++ (if days.natAbs = 1 then " day, " else " days, ")
  let clock := natText (rest / 3600000000) ++ ":" ++ paddedNat 2 (rest / 60000000 % 60) ++ ":" ++
    paddedNat 2 (rest / 1000000 % 60)
  let fraction := rest % 1000000
  daysText ++ clock ++ if fraction = 0 then "" else "." ++ paddedNat 6 fraction

/-- The parts of a number of microseconds that are not zero, each with its unit and its sign: days, hours,
    minutes, seconds, and whole milliseconds or microseconds. -/
def unitsText (microseconds : Int) : String :=
  let size := microseconds.natAbs
  let clock := [(size / 86400000000, "d"), (size / 3600000000 % 24, "h"), (size / 60000000 % 60, "m"),
    (size / 1000000 % 60, "s")]
  let fraction := size % 1000000
  let last := if fraction % 1000 = 0 then (fraction / 1000, "ms") else (fraction, "µs")
  let shown := (clock ++ [last]).filter (·.1 ≠ 0)
  let mark := if microseconds < 0 then "-" else ""
  if shown.isEmpty then "0µs"
  else " ".intercalate (shown.map fun (amount, unit) => mark ++ natText amount ++ unit)

end SplitExport.Calendar
