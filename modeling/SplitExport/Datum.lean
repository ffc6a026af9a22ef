import SplitExport.Calendar.Clock
import SplitExport.Number.Decimal
import SplitExport.Number.Integer
import SplitExport.Text.Quoted

/-!
# Data — the values that callers hand in and databases hand out

A partition, a period or the cell of a result may be of any type, and which type it has decides how it
is read and how a message shows it.

* `Datum.quoted` shows a datum so that its type can be told; `Datum.display` shows it as plain text.
  `Datum.isWritten` tells whether no integer in it has too many digits for that.
* `Datum.isTruthy` is false of null, false, zeros and everything empty.
* `Datum.toInteger` cuts numbers at their point and reads texts; `ConversionError` says what has no
  integer value.
-/

namespace SplitExport

open SplitExport.Calendar SplitExport.Number SplitExport.Text

/-- A value of any type; durations are in microseconds. -/
inductive Datum where
  | null
  | bool (b : Bool)
  | int (i : Int)
  | float (x : Binary64)
  | decimal (d : Decimal)
  | special (d : SpecialDecimal)
  | text (s : String)
  | bytes (octets : List UInt8)
  | date (d : Date)
  | moment (m : Moment)
  /-- A moment whose clock shows universal time. -/
  | universal (m : Moment)
  | time (t : TimeOfDay)
  | duration (microseconds : Int)
  | list (items : List Datum)
  | record (fields : List (String × Datum))
deriving Repr, Inhabited

namespace Datum

/-! ## Truth -/

/-- Null, false, zeros and everything empty count as false. -/
def isTruthy : Datum → Bool
  | .null => false
  | .bool b => b
  | .int i => i != 0
  | .float x => !x.isZero
  | .decimal d => d.coefficient != 0
  | .text s => !s.isEmpty
  | .bytes octets => !octets.isEmpty
  | .special _ | .date _ | .moment _ | .universal _ | .time _ => true
  | .duration us => us != 0
  | .list items => !items.isEmpty
  | .record fields => !fields.isEmpty

/-! ## Texts -/

/-- A name with its arguments in round brackets. -/
def applied (name : String) (arguments : List String) : String :=
  name ++ "(" ++ ", ".intercalate arguments ++ ")"

/-- The parts of a date. -/
def dateParts (d : Date) : List String :=
  [natText d.year, natText d.month, natText d.day]

/-- The parts of a time: the hour, the minute, and the rest as far as it is not zero. -/
def timeParts (t : TimeOfDay) : List String :=
  let shown :=
    if t.microsecond ≠ 0 then [t.hour, t.minute, t.second, t.microsecond]
    else if t.second ≠ 0 then [t.hour, t.minute, t.second]
    else [t.hour, t.minute]
  shown.map natText

/-- The parts of a duration that are not zero. -/
def durationParts (us : Int) : List String :=
  let perDay : Int := 86400000000
  let days := us.fdiv perDay
  let rest := us - days * perDay
  let parts := [("days", days), ("seconds", rest / 1000000), ("microseconds", rest % 1000000)]
  let shown := (parts.filter (·.2 ≠ 0)).map fun (name, amount) => name ++ "=" ++ intText amount
  if shown.isEmpty then ["0"] else shown

mutual

/-- The text that shows a datum with its type. -/
def quoted : Datum → String
  | .null => "None"
  | .bool b => if b then "True" else "False"
  | .int i => intText i
  | .float x => x.text
  | .decimal d => applied "Decimal" ["'" ++ d.text ++ "'"]
  | .special d => applied "Decimal" ["'" ++ d.text ++ "'"]
  | .text s => Text.quoted s
  | .bytes octets => quotedOctets octets
  | .date d => applied "datetime.date" (dateParts d)
  | .moment m => applied "datetime.datetime" (dateParts m.date ++ timeParts m.time)
  | .universal m =>
    applied "datetime.datetime"
      (dateParts m.date ++ timeParts m.time ++ ["tzinfo=zoneinfo.ZoneInfo(key='UTC')"])
  | .time t => applied "datetime.time" (timeParts t)
  | .duration us => applied "datetime.timedelta" (durationParts us)
  | .list items => "[" ++ ", ".intercalate (quotedItems items) ++ "]"
  | .record fields => "\x7b" ++ ", ".intercalate (quotedFields fields) ++ "\x7d"

/-- The texts of the items of a list. -/
def quotedItems : List Datum → List String
  | [] => []
  | item :: rest => item.quoted :: quotedItems rest

/-- The texts of the fields of a record. -/
def quotedFields : List (String × Datum) → List String
  | [] => []
  | (name, value) :: rest => (Text.quoted name ++ ": " ++ value.quoted) :: quotedFields rest

end

mutual

/-- Whether the integers in a datum are written when it is shown. -/
def isWritten : Datum → Bool
  | .int i => isWritable i
  | .list items => areWritten items
  | .record fields => fieldsAreWritten fields
  | _ => true

/-- Whether the integers in the items of a list are written. -/
def areWritten : List Datum → Bool
  | [] => true
  | item :: rest => item.isWritten && areWritten rest

/-- Whether the integers in the fields of a record are written. -/
def fieldsAreWritten : List (String × Datum) → Bool
  | [] => true
  | (_, value) :: rest => value.isWritten && fieldsAreWritten rest

end

/-- The plain text of a datum. -/
def display : Datum → String
  | .text s => s
  | .decimal d => d.text
  | .special d => d.text
  | .date d => d.iso
  | .moment m => m.isoWith " "
  | .universal m => m.isoWith " " ++ "+00:00"
  | .time t => t.iso
  | .duration us => durationText us
  | other => other.quoted

/-! ## Integers -/

/-- The name of a datum's type. -/
def typeName : Datum → String
  | .null => "NoneType"
  | .bool _ => "bool"
  | .int _ => "int"
  | .float _ => "float"
  | .decimal _ | .special _ => "decimal.Decimal"
  | .text _ => "str"
  | .bytes _ => "bytes"
  | .date _ => "datetime.date"
  | .moment _ | .universal _ => "datetime.datetime"
  | .time _ => "datetime.time"
  | .duration _ => "datetime.timedelta"
  | .list _ => "list"
  | .record _ => "dict"

/-- Why a datum has no integer value. -/
inductive ConversionError where
  /-- A floating point number or a decimal is no number. -/
  | notANumber (isDecimal : Bool)
  /-- A floating point number or a decimal is infinite. -/
  | infinite (isDecimal : Bool)
  | unreadable (cause : IntegerError)
  | wrongType (name : String)
deriving DecidableEq, Repr

/-- The cause in words. -/
def ConversionError.message : ConversionError → String
  | .notANumber isDecimal =>
    "cannot convert " ++ (if isDecimal then "NaN" else "float NaN") ++ " to integer"
  | .infinite isDecimal =>
    "cannot convert " ++ (if isDecimal then "Infinity" else "float infinity") ++ " to integer"
  | .unreadable cause => cause.message
  | .wrongType name =>
    "int() argument must be a string, a bytes-like object or a real number, not '" ++ name ++ "'"

/-- The ASCII character of an octet; no octet above ASCII is part of a number. -/
def octetChar (octet : UInt8) : Char :=
  if octet < 0x80 then Char.ofNat octet.toNat else '\ufffd'

/-- The integer value: numbers lose what stands after their point, texts are read. -/
def toInteger : Datum → Except ConversionError Int
  | .int i => .ok i
  | .bool b => .ok (if b then 1 else 0)
  | .float .nan => .error (.notANumber false)
  | .float (.infinity _) => .error (.infinite false)
  | .special (.notANumber ..) => .error (.notANumber true)
  | .special (.infinity _) => .error (.infinite true)
  | .float x => .ok (x.truncate?.getD 0)
  | .decimal d => .ok d.truncate
  | .text s => (readInteger s).mapError .unreadable
  | .bytes octets =>
    (readIntegerShown (quotedOctets octets) (octets.map octetChar)).mapError
      .unreadable
  | other => .error (.wrongType other.typeName)

end Datum

end SplitExport
