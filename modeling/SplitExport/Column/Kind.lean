import SplitExport.Text.Quoted

/-!
# Column kinds — the types that the columns of a result have

* `ColumnKind.name` writes a kind: a plain name, or a name with parameters. A family is a kind whose
  parameters are left open, and is written by its name alone. `ColumnKind.brief` writes it shorter.
* `ColumnKind.isIntegral` recognises the signed and unsigned integers of any width.
* A `record` names and types its fields in order (`FieldKinds`).
-/

namespace SplitExport

open SplitExport.Text

/-- The unit that moments and durations are counted in. -/
inductive TimeUnit where
  | milliseconds
  | microseconds
  | nanoseconds
deriving DecidableEq, Repr

/-- The name of a unit. -/
def TimeUnit.name : TimeUnit → String
  | .milliseconds => "ms"
  | .microseconds => "us"
  | .nanoseconds => "ns"

/-- The short name of a unit. -/
def TimeUnit.brief : TimeUnit → String
  | .milliseconds => "ms"
  | .microseconds => "μs"
  | .nanoseconds => "ns"

mutual

/-- The type of a column. -/
inductive ColumnKind where
  | signed (bits : Nat)
  | unsigned (bits : Nat)
  | float32
  | float64
  | boolean
  | text
  | binary
  | date
  | time
  | object
  | null
  | categorical
  | moment (unit : TimeUnit) (zone : Option String)
  | duration (unit : TimeUnit)
  | decimal (precision scale : Nat)
  | list (inner : ColumnKind)
  | record (fields : FieldKinds)
  | family (name : String)
deriving DecidableEq, Repr

/-- The names and kinds of the fields of a record. -/
inductive FieldKinds where
  | nil
  | cons (name : String) (kind : ColumnKind) (rest : FieldKinds)
deriving DecidableEq, Repr

end

namespace FieldKinds

/-- The number of fields. -/
def length : FieldKinds → Nat
  | .nil => 0
  | .cons _ _ rest => rest.length + 1

/-- The kind of the field with a name. -/
def kind? (name : String) : FieldKinds → Option ColumnKind
  | .nil => none
  | .cons field kind rest => if field = name then some kind else rest.kind? name

/-- The fields without those of a name. -/
def erase (name : String) : FieldKinds → FieldKinds
  | .nil => .nil
  | .cons field kind rest =>
    if field = name then rest.erase name else .cons field kind (rest.erase name)

end FieldKinds

namespace ColumnKind

/-- The family of moments. -/
def anyMoment : ColumnKind := .family "Datetime"

/-- The kind of moments in microseconds without a zone. -/
def plainMoment : ColumnKind := .moment .microseconds none

mutual

/-- The text of a kind. -/
def name : ColumnKind → String
  | .signed bits => "Int" ++ natText bits
  | .unsigned bits => "UInt" ++ natText bits
  | .float32 => "Float32"
  | .float64 => "Float64"
  | .boolean => "Boolean"
  | .text => "String"
  | .binary => "Binary"
  | .date => "Date"
  | .time => "Time"
  | .object => "Object"
  | .null => "Null"
  | .categorical => "Categorical"
  | .moment unit zone =>
    "Datetime(time_unit='" ++ unit.name ++ "', time_zone=" ++ (zone.elim "None" quoted) ++ ")"
  | .duration unit => "Duration(time_unit='" ++ unit.name ++ "')"
  | .decimal precision scale =>
    "Decimal(precision=" ++ natText precision ++ ", scale=" ++ natText scale ++ ")"
  | .list inner => "List(" ++ inner.name ++ ")"
  | .record fields => "Struct(\x7b" ++ ", ".intercalate (fieldNames fields) ++ "\x7d)"
  | .family name => name

/-- The texts of the fields of a record. -/
def fieldNames : FieldKinds → List String
  | .nil => []
  | .cons field kind rest => (quoted field ++ ": " ++ kind.name) :: fieldNames rest

end

/-- The short text of a kind. -/
def brief : ColumnKind → String
  | .signed bits => "i" ++ natText bits
  | .unsigned bits => "u" ++ natText bits
  | .float32 => "f32"
  | .float64 => "f64"
  | .boolean => "bool"
  | .text => "str"
  | .binary => "binary"
  | .date => "date"
  | .time => "time"
  | .object => "object"
  | .null => "null"
  | .categorical => "cat"
  | .moment unit zone =>
    "datetime[" ++ unit.brief ++ (zone.elim "" fun z => ", " ++ z) ++ "]"
  | .duration unit => "duration[" ++ unit.brief ++ "]"
  | .decimal precision scale => "decimal[" ++ natText precision ++ "," ++ natText scale ++ "]"
  | .list inner => "list[" ++ inner.brief ++ "]"
  | .record fields => "struct[" ++ natText fields.length ++ "]"
  | .family name => name

/-- Whether a column holds integers. -/
def isIntegral : ColumnKind → Bool
  | .signed _ | .unsigned _ => true
  | _ => false

/-- Whether a column holds dates, times, moments or durations. -/
def isTemporal : ColumnKind → Bool
  | .date | .time | .moment .. | .duration _ => true
  | _ => false

end ColumnKind

end SplitExport
