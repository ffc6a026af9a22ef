import SplitExport.Calendar.IsoText
import SplitExport.Column.Coercion

/-!
# Building columns — the values of a column and the kind that was asked for

`Column.ofValues` makes a column of a kind from the values that a database has sent. Most kinds hold each
value by itself (`ColumnKind.hold`); the others look at all of them.

* Floats are taken as they are if every value is a number.
* Decimals come from a column of the kind of all values (`inferKind`), whose values are rounded to the
  scale; without a scale they keep the greatest one among them.
* Dates, times, moments and durations go by the first value that is not null. A number makes every value
  count units, a text makes every value a text to be read, and anything else leaves the column with the
  kind of its values, except for the unit and the zone that were asked for.
* A list is a column of its own.
-/

namespace SplitExport

open SplitExport.Calendar SplitExport.Number SplitExport.Text

/-- A column of a result. -/
structure Column where
  name : String
  kind : ColumnKind
  values : List Datum
deriving Repr

/-- The values of a column with their kind. -/
structure Cells where
  kind : ColumnKind
  values : List Datum
deriving Repr

namespace Cells

/-- A value settled for good: the items of a list are of one kind. -/
def settled (value : Datum) : Except ColumnDefect Datum := do
  let value ← value.settle
  return (← value.kind).hold value

/-- Values brought to a kind one by one. -/
def holding (kind : ColumnKind) (values : List Datum) : Except ColumnDefect Cells := do
  return ⟨kind, (← values.mapM settled).map kind.hold⟩

/-- Values brought to the kind of all of them. -/
def inferred (values : List Datum) : Except ColumnDefect Cells := do
  let settled ← values.mapM Datum.settle
  let kind ← inferKind settled
  return ⟨kind, settled.map kind.hold⟩

/-- Values brought from one kind to another. -/
def cast (cells : Cells) (kind : ColumnKind) : Cells :=
  ⟨kind, cells.values.map kind.hold⟩

/-! ## Floats -/

/-- The floating point number that a number is nearest to; `none` for what is no number or has no such
    value. -/
def plainReal? : Datum → Except ColumnDefect (Option Datum)
  | .null => .ok (some .null)
  | .bool b => .ok (some (.float (Binary64.ofInt (if b then 1 else 0))))
  | .int i =>
    match Binary64.ofInt i with
    | .infinity _ => .ok none
    | x => .ok (some (.float x))
  | .float x => .ok (some (.float x))
  | .decimal d => .ok (some (.float d.toBinary64))
  | .special d => if d.isSignaling then .error .signalingDecimal else .ok (some (.float d.toBinary64))
  | _ => .ok none

/-- The floating point numbers of values, if all have one. -/
def plainReals? : List Datum → Except ColumnDefect (Option (List Datum))
  | [] => .ok (some [])
  | value :: rest => do
    match ← plainReal? value with
    | none => return none
    | some real => return (← plainReals? rest).map (real :: ·)

/-- Values as floats. -/
def floats (kind : ColumnKind) (values : List Datum) : Except ColumnDefect Cells := do
  match ← plainReals? values with
  | some reals => return ⟨kind, reals.map kind.hold⟩
  | none => holding kind values

/-! ## Decimals -/

/-- The decimal that a text writes without an exponent. -/
def textDecimal? (s : String) : Option Decimal :=
  if s.toList.any fun c => c == 'e' || c == 'E' then none else readDecimal? s.toList

/-- The decimal of a text, null if it writes none. -/
def textDecimal : Datum → Datum
  | .text s => (textDecimal? s).elim .null .decimal
  | _ => .null

/-- The digits after the point of a decimal. -/
def scaleOf : Datum → Nat
  | .decimal d => d.scale
  | _ => 0

/-- Whether values of a kind can be turned into decimals as they are. -/
def countsUnits : ColumnKind → Bool
  | .null | .boolean => true
  | other => other.isNumeric

/-- Values as decimals of some digits and a scale. -/
def decimals (digits scale : Nat) (values : List Datum) : Except ColumnDefect Cells := do
  let cells ← inferred values
  if countsUnits cells.kind then return cells.cast (.decimal digits scale)
  else if cells.kind = .text then
    return ({ cells with values := cells.values.map textDecimal } : Cells).cast (.decimal digits scale)
  else .error (.inconvertible cells.kind)

/-- Texts as decimals of the greatest scale among them. -/
def textDecimals (texts : List Datum) : Cells :=
  let read := texts.map textDecimal
  (⟨.text, read⟩ : Cells).cast (.decimal decimalDigits ((read.map scaleOf).foldl max 0))

/-- Values as decimals of a scale of their own. -/
def anyDecimals (values : List Datum) : Except ColumnDefect Cells := do
  let cells ← inferred values
  match cells.kind with
  | .decimal .. => return cells
  | .null | .signed _ | .unsigned _ => return cells.cast (.decimal decimalDigits 0)
  | .text => return textDecimals cells.values
  | .float64 => return textDecimals (cells.values.map ColumnKind.text.hold)
  | other => .error (.notDecimal other)

/-! ## Dates and times -/

/-- The kind of a column of dates and times that was asked for by its family. -/
def closed : ColumnKind → ColumnKind
  | .family "Datetime" => .plainMoment
  | .family "Duration" => .duration .microseconds
  | other => other

/-- The moment, date or time that a text writes, null if it writes none. -/
def readText (kind : ColumnKind) : Datum → Datum
  | .text s =>
    match kind with
    | .time => ((readTime? s.toList).map .time).getD .null
    | .date => if s.length = 10 then ((readMoment? s.toList).map .moment).getD .null else .null
    | _ => ((readMoment? s.toList).map .moment).getD .null
  | _ => .null

/-- The unit that was asked for, if the kind names one. -/
def unit? : ColumnKind → Option TimeUnit
  | .moment unit _ | .duration unit => some unit
  | _ => none

/-- Moments or durations counted in a unit. -/
def countedIn (unit : TimeUnit) (cells : Cells) : Except ColumnDefect Cells :=
  match cells.kind with
  | .moment _ zone => .ok (cells.cast (.moment unit zone))
  | .duration _ => .ok (cells.cast (.duration unit))
  | other => .error (.unitless other)

/-- Whether a kind is one of moments. -/
def isMoment (kind : ColumnKind) : Bool :=
  match closed kind with
  | .moment .. => true
  | _ => false

/-- Values as the dates or times that they are, the first of them given: a date in front makes them
    moments if moments were asked for, and whatever else is in front has to know of time zones then. -/
def asTheyAre (kind : ColumnKind) (first : Datum) (values : List Datum) : Except ColumnDefect Cells := do
  let cells ← inferred values
  match first with
  | .date _ => return if isMoment kind then cells.cast (closed kind) else cells
  | first =>
    let cells ← match unit? kind with
      | some unit => cells.countedIn unit
      | none => pure cells
    match first with
    | .moment _ | .time _ =>
      match kind with
      | .moment _ (some _) => return cells.cast kind
      | _ => return cells
    | other => if isMoment kind then .error (.zoneless other.typeName) else return cells

/-- Values as dates, times, moments or durations. -/
def temporals (kind : ColumnKind) (values : List Datum) : Except ColumnDefect Cells :=
  match values.find? (!·.isNull) with
  | none => .ok ⟨closed kind, values⟩
  | some (.int _) | some (.bool _) => holding (closed kind) values
  | some (.float _) => .error (.fractional kind)
  | some (.text s) =>
    match closed kind with
    | .duration _ => asTheyAre kind (.text s) values
    | target => do return ⟨target, ((← inferred values).values.map (readText target)).map target.hold⟩
  | some first => asTheyAre kind first values

/-! ## Lists and records -/

/-- Values as lists or records of the kinds that they have, `blank` being the kind of none. -/
def compounds (blank : ColumnKind) (values : List Datum) : Except ColumnDefect Cells := do
  let cells ← inferred values
  return if cells.kind = .null then { cells with kind := blank } else cells

/-! ## All kinds -/

/-- The values of a column of a kind. -/
def ofValues : ColumnKind → List Datum → Except ColumnDefect Cells
  | .object, values => .ok ⟨.object, values⟩
  | .null, values => .ok ⟨.null, values.map fun _ => .null⟩
  | .float32, values => floats .float32 values
  | .float64, values => floats .float64 values
  | .decimal digits scale, values => decimals digits scale values
  | .date, values => temporals .date values
  | .time, values => temporals .time values
  | .moment unit zone, values => temporals (.moment unit zone) values
  | .duration unit, values => temporals (.duration unit) values
  | .list inner, values => do
    let lists ← values.mapM fun value =>
      match value with
      | .null => .ok Datum.null
      | .list items => do return .list (← ofValues inner items).values
      | .bytes octets => do return .list (← ofValues inner (octets.map fun o => .int o.toNat)).values
      | other => .error (.notList other.typeName)
    return ⟨.list inner, lists⟩
  | .family name, values =>
    match name with
    | "Decimal" => anyDecimals values
    | "Datetime" | "Duration" => temporals (.family name) values
    | "List" => compounds (.list .null) values
    | "Struct" => compounds (.record .nil) values
    | _ => .ok ⟨.family name, values⟩
  | kind, values => holding kind values

end Cells

/-- The column of a kind with the given values. -/
def Column.ofValues (name : String) (kind : ColumnKind) (values : List Datum) :
    Except ColumnDefect Column := do
  let cells ← Cells.ofValues kind values
  return ⟨name, cells.kind, cells.values⟩

end SplitExport
