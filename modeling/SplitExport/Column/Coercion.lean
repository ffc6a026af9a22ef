import SplitExport.Column.Inference

/-!
# Coercion — single values brought to the kind of a column

`ColumnKind.hold` gives what a column of a kind holds for a settled value (`Datum.settle`). A value that
does not fit the kind becomes null; null stays null.

* Integers have to lie in the range of the kind; other numbers are cut at their point first, a text is
  read as a number, and dates and times count their units.
* Floats take the nearest value, narrow ones by two roundings.
* Truth values tell whether an integer or a float differs from zero.
* Texts take values in words, lists and records in brackets; categories take their labels, which shorten
  numbers and lists; octets take texts in UTF-8.
* Dates, times, moments and durations take numbers as counts of their unit. A count that leads beyond the
  years of dates stays a number, which `Frame.unreadable?` finds.
* Lists and records bring their items to the kinds of their own.
-/

namespace SplitExport

open SplitExport.Calendar SplitExport.Number SplitExport.Text

namespace Datum

/-- A datum that stands for no value. -/
def isNull : Datum → Bool
  | .null => true
  | _ => false

/-! ## Numbers -/

/-- The integer of ASCII digits with an optional sign, if it fits a word of 128 bits. -/
def plainInteger? (cs : List Char) : Option Int :=
  let (negative, digits) := takeSign cs
  let value : Int := digitsValue digits
  let signedValue := if negative then -value else value
  if !digits.isEmpty && digits.all isAsciiDigit && fitsSigned 128 signedValue then some signedValue
  else none

/-- The floating point quotient of the digits of a decimal and the power of ten that they are counted
    in. -/
def quotientOf (d : Decimal) : Binary64 :=
  let size := Binary64.ofInt (if d.negative then -(d.coefficient : Int) else d.coefficient)
  if d.scale = 0 then size else size.dividedBy (Binary64.ofInt (Nat.pow 10 d.scale))

/-- The integer that a datum gives a column of integers. -/
def wholeNumber? : Datum → Option Int
  | .bool b => some (if b then 1 else 0)
  | .int i => some i
  | .float x => x.truncate?
  | .decimal d => if d.scale = 0 then some d.truncate else (quotientOf d).truncate?
  | .text s =>
    match plainInteger? s.toList with
    | some i => some i
    | none => (readBinary64? s).bind Binary64.truncate?
  | .date d => some d.epochDay
  | .moment m | .universal m => some m.sinceEpoch
  | .time t => some (t.sinceMidnight * 1000)
  | .duration us => some us
  | _ => none

/-- The floating point number that a datum gives a column of floats. -/
def realNumber? : Datum → Option Binary64
  | .float x => some x
  | .decimal d => some (quotientOf d)
  | .text s =>
    match plainInteger? s.toList with
    | some i => some (Binary64.ofInt i)
    | none => readBinary64? s
  | other => other.wholeNumber?.map Binary64.ofInt

/-- The number of units that a datum counts for a date or a time. -/
def count? : Datum → Option Int
  | .int i => some i
  | .float x => x.truncate?
  | _ => none

/-- The truth value that a datum gives a column of truth values. -/
def truth? : Datum → Option Bool
  | .bool b => some b
  | .int i => some (i != 0)
  | .float x => some !x.isZero
  | _ => none

/-! ## Words -/

mutual

/-- The label of a datum among others: texts are quoted, null has a name, and of more than three items of
    a list the first two and the last are shown. -/
def label : Datum → String
  | .null | .bytes _ | .special _ => "null"
  | .bool b => if b then "true" else "false"
  | .int i => intText i
  | .float x => x.labelText
  | .decimal d => d.plainText
  | .text s => "\"" ++ s ++ "\""
  | .date d => d.iso
  | .moment m => m.date.iso ++ " " ++ m.time.shortText
  | .universal m => m.date.iso ++ " " ++ m.time.shortText ++ " UTC"
  | .time t => t.shortText
  | .duration us => unitsText us
  | .list items =>
    match labels items with
    | first :: second :: rest@(_ :: _ :: _) =>
      "[" ++ first ++ ", " ++ second ++ ", … " ++ rest.getLastD "" ++ "]"
    | few => "[" ++ ", ".intercalate few ++ "]"
  | .record fields => "\x7b" ++ ",".intercalate (fieldLabels fields) ++ "\x7d"

/-- The labels of the items of a list. -/
def labels : List Datum → List String
  | [] => []
  | item :: rest => item.label :: labels rest

/-- The labels of the values of a record. -/
def fieldLabels : List (String × Datum) → List String
  | [] => []
  | (_, value) :: rest => value.label :: fieldLabels rest

end

/-- The name of the category that a datum gives a column of categories. -/
def category? : Datum → Option String
  | .null | .bytes _ | .special _ => none
  | .text s => some s
  | other => some other.label

mutual

/-- The text that a datum gives a column of texts: numbers and the items of lists are written in full. -/
def words? : Datum → Option String
  | .null | .bytes _ | .special _ => none
  | .text s => some s
  | .float x => some x.pointedText
  | .list items => some ("[" ++ ",".intercalate (itemWords items) ++ "]")
  | .record fields => some ("\x7b" ++ ",".intercalate (fieldWords fields) ++ "\x7d")
  | other => some other.label

/-- The texts of the items of a list; one without a text has its label. -/
def itemWords : List Datum → List String
  | [] => []
  | item :: rest => item.words?.getD item.label :: itemWords rest

/-- The texts of the values of a record, like those of a list, but texts have their labels. -/
def fieldWords : List (String × Datum) → List String
  | [] => []
  | (_, .text s) :: rest => (Datum.text s).label :: fieldWords rest
  | (_, value) :: rest => value.words?.getD value.label :: fieldWords rest

end

end Datum

/-! ## Columns -/

/-- The microseconds of a number of units, rounded down. -/
def TimeUnit.toMicroseconds (unit : TimeUnit) (count : Int) : Int :=
  match unit with
  | .milliseconds => count * 1000
  | .microseconds => count
  | .nanoseconds => count.fdiv 1000

namespace ColumnKind

/-- The integer of a kind of integers, null if it lies outside the range. -/
def wordOf (fits : Nat → Int → Bool) (bits : Nat) (x : Datum) : Datum :=
  match x.wholeNumber? with
  | some i => if fits bits i then .int i else .null
  | none => .null

/-- The date of a datum, or of a number of days since 1970-01-01; a number that is no date is kept. -/
def dateOf : Datum → Datum
  | .date d => .date d
  | .moment m => .date m.date
  | x =>
    match x.count? with
    | some n => if fitsSigned 32 n then ((Date.ofEpochDay? n).map .date).getD (.int n) else .null
    | none => .null

/-- The time of a datum, or of a number of nanoseconds since midnight. -/
def timeOf : Datum → Datum
  | .time t => .time t
  | .moment m => .time m.time
  | x =>
    match x.count? with
    | some n => if n < 0 then .null else ((TimeOfDay.ofMicroseconds? (n.toNat / 1000)).map .time).getD .null
    | none => .null

/-- A moment of a zone as a datum. -/
def zoned (zone : Option String) (m : Moment) : Datum :=
  if zone.isSome then .universal m else .moment m

/-- A moment in a unit. -/
def momentIn (unit : TimeUnit) (m : Moment) : Moment :=
  if unit = .milliseconds then { m with time := m.time.toMilliseconds } else m

/-- The moment of a datum in a unit, or of a number of units since 1970-01-01; of a number that is no
    moment, the microseconds are kept. -/
def momentOf (unit : TimeUnit) (zone : Option String) : Datum → Datum
  | .moment m | .universal m => zoned zone (momentIn unit m)
  | .date d => zoned zone ⟨d, .midnight⟩
  | x =>
    match x.count? with
    | some n =>
      let microseconds := unit.toMicroseconds n
      if fitsSigned 64 n then ((Moment.ofEpoch? microseconds).map (zoned zone)).getD (.int microseconds)
      else .null
    | none => .null

/-- A duration in a unit, cut toward zero. -/
def durationIn (unit : TimeUnit) (us : Int) : Int :=
  if unit = .milliseconds then us.tdiv 1000 * 1000 else us

/-- The duration of a datum in a unit, or of a number of units. -/
def durationOf (unit : TimeUnit) : Datum → Datum
  | .duration us => .duration (durationIn unit us)
  | x => (x.count?.map fun n => .duration (unit.toMicroseconds n)).getD .null

/-- The decimal of a number of units of a scale, null if it has too many digits. -/
def decimalOf (digits scale : Nat) (units : Option Int) : Datum :=
  match units with
  | some n => if fitsDecimal digits n then .decimal (Decimal.ofUnits scale n) else .null
  | none => .null

/-- The units of a scale that a datum counts exactly or after rounding. -/
def unitsOf (scale : Nat) : Datum → Option Int
  | .bool b => some (if b then Nat.pow 10 scale else 0)
  | .int i => some (i * Nat.pow 10 scale)
  | .decimal d => some (d.units scale)
  | .float x => (x.times (Binary64.ofInt (Nat.pow 10 scale))).nearest?
  | _ => none

mutual

/-- What a column of a kind holds for a settled value. -/
def hold : ColumnKind → Datum → Datum
  | _, .null => .null
  | .signed bits, x => wordOf fitsSigned bits x
  | .unsigned bits, x => wordOf fitsUnsigned bits x
  | .float32, x => x.realNumber?.elim .null fun r => .float (r.narrow .single)
  | .float64, x => x.realNumber?.elim .null .float
  | .boolean, x => x.truth?.elim .null .bool
  | .text, x => x.words?.elim .null .text
  | .categorical, x => x.category?.elim .null .text
  | .binary, .bytes octets => .bytes octets
  | .binary, .text s => .bytes s.toUTF8.toList
  | .binary, _ => .null
  | .date, x => dateOf x
  | .time, x => timeOf x
  | .moment unit zone, x => momentOf unit zone x
  | .duration unit, x => durationOf unit x
  | .decimal digits scale, x => decimalOf digits scale (unitsOf scale x)
  | .list inner, .list items => .list (items.map inner.hold)
  | .list _, _ => .null
  | .record kinds, .record fields => .record (holdFields kinds fields)
  | .record _, _ => .null
  | .null, _ => .null
  | .object, x | .family _, x => x

/-- The fields of a record, each brought to its kind; one that is missing is null. -/
def holdFields : FieldKinds → List (String × Datum) → List (String × Datum)
  | .nil, _ => []
  | .cons name kind rest, fields =>
    (name, kind.hold ((fields.lookup name).getD .null)) :: holdFields rest fields

end

end ColumnKind

end SplitExport
