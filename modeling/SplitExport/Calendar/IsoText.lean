import SplitExport.Calendar.Clock

/-!
# ISO 8601 texts — reading a date or a moment

A text is a date, and optionally one separator character of any kind, a time and an offset from UTC.

* A date is `YYYY-MM-DD`, `YYYYMMDD`, `YYYY-Www[-D]` or `YYYYWww[D]`, where week 1 holds the first
  Thursday of the year. The length of the date decides where the separator stands
  (`separatorPosition?`).
* A time is one to three pairs of digits, with colons between them or without, and a fraction of a
  second; an offset starts with a sign or is `Z`.
* A moment is read as the clock on the spot shows it: the offset has to be well formed and shorter
  than a day, and moves nothing.
* Where an offset follows, the time may end in one superfluous ASCII character, and a fraction of six
  digits in anything; a time, an offset or a `Z` may be followed by a NUL character.
-/

namespace SplitExport.Calendar

open SplitExport.Text

/-! ## Digits -/

/-- The number that exactly `n` ASCII digits at the front of a text write, and what follows. -/
def readDigits? (n : Nat) (cs : List Char) : Option (Nat × List Char) :=
  let digits := cs.take n
  if digits.length = n ∧ digits.all isAsciiDigit then some (digitsValue digits, cs.drop n) else none

/-- Whether the character at a position is an ASCII digit. -/
def digitAt (cs : List Char) (i : Nat) : Bool :=
  (cs[i]?).any isAsciiDigit

/-! ## Dates -/

/-- The length of the date at the front of a text, which is where a separator would stand. A week date
    with hyphens followed by a hyphen is long if the digit after it ends the date; a week date
    without hyphens is as long as the parity of its run of digits tells. -/
def separatorPosition? (cs : List Char) : Option Nat :=
  if cs.length = 7 then some 7
  else if cs[4]? = some '-' then
    if cs[5]? = some 'W' then
      if cs[8]? = some '-' then
        if cs.length = 9 then none
        else if digitAt cs 10 then some 8
        else some 10
      else some 8
    else some 10
  else if cs[4]? = some 'W' then
    let stop := 7 + ((cs.drop 7).takeWhile isAsciiDigit).length
    if stop < 9 then some stop else if stop % 2 = 0 then some 7 else some 8
  else some 8

/-- The day count of the Monday of week 1: that of the week of January 4th. Weeks start on Monday, as
    the count does. -/
def weekOneMonday (year : Nat) : Nat :=
  (daysBeforeYear year + 3) / 7 * 7

/-- Whether a year has a week 53: it starts on a Thursday, or on a Wednesday and is a leap year. -/
def hasWeek53 (year : Nat) : Bool :=
  let weekday := daysBeforeYear year % 7
  weekday == 3 || (weekday == 2 && isLeap year)

/-- The date of a day of a week of a year, if that date has a year of four digits. -/
def ofWeek? (year week day : Nat) : Option Date :=
  if 1 ≤ year ∧ 1 ≤ week ∧ (week ≤ 52 ∨ (week = 53 ∧ hasWeek53 year)) ∧ 1 ≤ day ∧ day ≤ 7 then
    let date := Date.ofOrdinal (weekOneMonday year + (week - 1) * 7 + (day - 1))
    if date.year ≤ Date.lastYear then some date else none
  else none

/-- A hyphen at the front of a text, if the text needs one. -/
def takeHyphen? (needed : Bool) (cs : List Char) : Option (List Char) :=
  if needed then
    match cs with
    | '-' :: rest => some rest
    | _ => none
  else some cs

/-- The date at the front of a text. `length` is the length of the date: a month and a day end there, a
    week has a day exactly if it ends before. -/
def readDateOf? (length : Nat) (cs : List Char) : Option Date := do
  let (year, rest) ← readDigits? 4 cs
  let hyphens := rest.head? = some '-'
  let rest := if hyphens then rest.tail else rest
  match rest with
  | 'W' :: rest =>
    let (week, rest) ← readDigits? 2 rest
    if cs.length - rest.length < length then
      let rest ← takeHyphen? hyphens rest
      let (day, _) ← readDigits? 1 rest
      ofWeek? year week day
    else ofWeek? year week 1
  | rest =>
    let (month, rest) ← readDigits? 2 rest
    let rest ← takeHyphen? hyphens rest
    let (day, rest) ← readDigits? 2 rest
    if cs.length - rest.length = length ∧ year ≤ Date.lastYear then Date.ofParts? year month day
    else none

/-! ## Times -/

/-- What a time text says: hours, minutes, seconds and microseconds, and whether something that is not
    part of the time follows. -/
structure ClockReading where
  hour : Nat
  minute : Nat := 0
  second : Nat := 0
  microsecond : Nat := 0
  more : Bool := false

/-- A fraction of a second: up to six digits count, which must be all there are before the end, and
    further digits are passed; `next` is the character after the text. -/
def readFraction? (body : List Char) (next : Char) : Option (Nat × Bool) :=
  let counted := body.take 6
  if counted.all isAsciiDigit then
    let after := (body.drop 6).dropWhile isAsciiDigit
    some (digitsValue counted * Nat.pow 10 (6 - counted.length), after.headD next != '\x00')
  else none

/-- What may follow a pair of digits: the end of the text, another pair or a fraction. -/
inductive AfterPair where
  | finish (more : Bool)
  | pair (rest : List Char)
  | fraction (rest : List Char)

/-- Looks behind a pair of digits: `colons` tells whether pairs are separated, `next` is the character
    after the text. -/
def afterPair? (colons : Bool) (body : List Char) (next : Char) : Option AfterPair :=
  match body with
  | [] => some (.finish (next != '\x00'))
  | c :: rest =>
    if rest.isEmpty && c.toNat < 0x80 then some (.finish (c != '\x00'))
    else if colons && c == ':' then some (.pair rest)
    else if c == '.' || c == ',' then some (.fraction rest)
    else if !colons then some (.pair (c :: rest))
    else none

/-- Completes a reading by the fraction at the front of a text. -/
def ClockReading.withFraction? (r : ClockReading) (body : List Char) (next : Char) :
    Option ClockReading :=
  (readFraction? body next).map fun (microsecond, more) => { r with microsecond, more }

/-- Reads a time: pairs of digits as long as the text goes on, and a fraction after the third pair or
    after a point or a comma. -/
def readClock? (body : List Char) (next : Char) : Option ClockReading := do
  let (hour, rest) ← readDigits? 2 body
  let colons := rest.headD next == ':'
  match ← afterPair? colons rest next with
  | .finish more => return { hour, more }
  | .fraction rest => ({ hour : ClockReading }).withFraction? rest next
  | .pair rest =>
    let (minute, rest) ← readDigits? 2 rest
    match ← afterPair? colons rest next with
    | .finish more => return { hour, minute, more }
    | .fraction rest => ({ hour, minute : ClockReading }).withFraction? rest next
    | .pair rest =>
      let (second, rest) ← readDigits? 2 rest
      match ← afterPair? colons rest next with
      | .finish more => return { hour, minute, second, more }
      | .fraction rest | .pair rest => ({ hour, minute, second : ClockReading }).withFraction? rest next

/-! ## Offsets and moments -/

/-- Whether a character starts an offset. -/
def startsOffset (c : Char) : Bool :=
  c == '+' || c == '-' || c == 'Z'

/-- Whether the text is an offset from UTC of less than a day. -/
def isOffset : List Char → Bool
  | 'Z' :: rest => rest.headD '\x00' == '\x00'
  | _ :: rest =>
    match readClock? rest '\x00' with
    | some r => !r.more && (r.hour * 60 + r.minute) * 60 + r.second < 86400
    | none => false
  | [] => false

/-- Reads a time that an offset may follow. -/
def readTime? (cs : List Char) : Option TimeOfDay :=
  let body := cs.takeWhile (!startsOffset ·)
  let offset := cs.dropWhile (!startsOffset ·)
  match readClock? body (offset.headD '\x00') with
  | some r =>
    if (if offset.isEmpty then r.more else !isOffset offset) then none
    else TimeOfDay.ofParts? r.hour r.minute r.second r.microsecond
  | none => none

/-- Reads a date, or a date with a time: a date alone stands for its midnight. -/
def readMoment? (cs : List Char) : Option Moment := do
  if cs.length < 7 then none
  let length ← separatorPosition? cs
  let date ← readDateOf? length cs
  match cs.drop length with
  | [] => return ⟨date, .midnight⟩
  | _ :: time => return ⟨date, ← readTime? time⟩

end SplitExport.Calendar
