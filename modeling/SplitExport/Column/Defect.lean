import SplitExport.Column.Kind
import SplitExport.Fault

/-!
# Column defects — why values make no column, and columns no result

A defect is found while a result is put together from what a database has sent. It is reported as a
fault; a decimal that is no number ends the work altogether.
-/

namespace SplitExport

open SplitExport.Text

/-- What is wrong with the columns of a result. -/
inductive ColumnDefect where
  /-- A decimal has more digits than a column holds. -/
  | oversizeDecimal
  /-- A decimal is no number. -/
  | specialDecimal
  /-- A decimal signals that it is no number. -/
  | signalingDecimal
  /-- No kind holds the values of both kinds. -/
  | incompatible (left right : ColumnKind)
  /-- A floating point number stands where a column of dates or times starts. -/
  | fractional (kind : ColumnKind)
  /-- A value that knows of no time zone stands where a column of moments starts. -/
  | zoneless (typeName : String)
  /-- Values of a kind are not counted in a unit of time. -/
  | unitless (kind : ColumnKind)
  /-- Values of a kind are not taken for decimals. -/
  | notDecimal (kind : ColumnKind)
  /-- Values of a kind cannot be turned into decimals of a given scale. -/
  | inconvertible (kind : ColumnKind)
  /-- A value stands where a list is needed. -/
  | notList (typeName : String)
  /-- A name is no text. -/
  | nameNotText
  /-- Two columns have the same name. -/
  | repeatedName (name : String)
  /-- Two columns differ in height. -/
  | unevenHeights (name : String) (height : Nat) (first : String) (firstHeight : Nat)
deriving DecidableEq, Repr

namespace ColumnDefect

/-- What a kind of dates or times is called where a number does not fit it. -/
def calendarName : ColumnKind → String
  | .date => "date"
  | .time => "time"
  | .duration _ | .family "Duration" => "timedelta"
  | _ => "datetime"

/-- The fault that a defect is reported as. -/
def fault : ColumnDefect → Fault
  | .oversizeDecimal =>
    ⟨"RuntimeError", "BindingsError: \"Decimal is too large to fit in Decimal128\"", .other⟩
  | .specialDecimal => ⟨"PanicException", "the decimal is no number", .fatal⟩
  | .signalingDecimal => ⟨"ValueError", "cannot convert signaling NaN to float", .value⟩
  | .incompatible left right =>
    ⟨"SchemaError", "failed to determine supertype of " ++ left.brief ++ " and " ++ right.brief, .other⟩
  | .fractional kind =>
    ⟨"TypeError", "'float' object cannot be interpreted as a " ++ quoted (calendarName kind), .other⟩
  | .zoneless typeName =>
    ⟨"AttributeError", quoted typeName ++ " object has no attribute 'tzinfo'", .other⟩
  | .unitless kind =>
    ⟨"InvalidOperationError", "expected duration or datetime, got " ++ kind.brief, .other⟩
  | .notDecimal kind => ⟨"TypeError", "can't convert " ++ kind.name ++ " to Decimal", .other⟩
  | .inconvertible kind =>
    ⟨"InvalidOperationError", "casting from " ++ kind.name ++ " to Decimal not supported", .other⟩
  | .notList typeName => ⟨"TypeError", "object of type " ++ quoted typeName ++ " has no len()", .other⟩
  | .nameNotText => ⟨"TypeError", "Series name must be a string", .other⟩
  | .repeatedName name =>
    ⟨"DuplicateError",
      "could not create a new DataFrame: column with name '" ++ name ++ "' has more than one occurrence",
      .other⟩
  | .unevenHeights name height first firstHeight =>
    ⟨"ShapeError",
      "could not create a new DataFrame: height of column '" ++ name ++ "' (" ++ natText height ++
        ") does not match height of column '" ++ first ++ "' (" ++ natText firstHeight ++ ")", .other⟩

end ColumnDefect

end SplitExport
