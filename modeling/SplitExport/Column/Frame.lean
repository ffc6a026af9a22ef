import SplitExport.Calendar.Civil
import SplitExport.Column.Build

/-!
# Frames — results as named columns of one height

* A `Schema` gives each name once: a name that comes again keeps its place and takes the later kind.
  Names are whatever a database sends; numbers of one value are one name.
* `Frame.ofColumns` builds columns in order and puts them together: names are texts, each used once, and
  all columns are of one height. A column without a name is named by its place.
* `Frame.ofRows` turns rows into columns and hands them to the schema in order: as many columns as the
  shortest row has values, and no more than the schema has names.
* `Frame.column?` finds a column by its name; the height is that of the first column.
* A row cannot be read while it has a date beyond the years of dates (`Frame.unreadable?`).
-/

namespace SplitExport

open SplitExport.Calendar SplitExport.Number SplitExport.Text

/-! ## Names -/

namespace Datum

/-- The number that a datum is, as a quotient: a truth value counts as 0 or 1. -/
def quotient? : Datum → Option (Int × Nat)
  | .bool b => some (if b then 1 else 0, 1)
  | .int i => some (i, 1)
  | .float (.finite negative m q) =>
    let (size, parts) := Binary64.ratioOf m q
    some (if negative then -(size : Int) else size, parts)
  | .decimal d => some (if d.negative then -(d.ratio.1 : Int) else d.ratio.1, d.ratio.2)
  | _ => none

/-- The sign of an infinite number. -/
def infinite? : Datum → Option Bool
  | .float (.infinity negative) | .special (.infinity negative) => some negative
  | _ => none

/-- Whether two data are one name: numbers go by their value. -/
def isSameName (a b : Datum) : Bool :=
  match a.quotient?, b.quotient? with
  | some (m, d), some (n, e) => m * e == n * d
  | none, none =>
    match a, b with
    | .null, .null => true
    | .text s, .text t => s == t
    | .bytes o, .bytes p => o == p
    | .date d, .date e => d = e
    | .moment m, .moment n => m = n
    | .time t, .time u => t = u
    | .duration x, .duration y => x == y
    | a, b => a.infinite?.isSome && a.infinite? == b.infinite?
  | _, _ => false

end Datum

/-! ## Schemas -/

/-- The columns that a result is described to have. -/
abbrev Schema := List (Datum × ColumnKind)

/-- A schema with one more described column. -/
def Schema.insert (schema : Schema) (name : Datum) (kind : ColumnKind) : Schema :=
  if schema.any (·.1.isSameName name) then
    schema.map fun entry => if entry.1.isSameName name then (entry.1, kind) else entry
  else schema ++ [(name, kind)]

/-! ## Frames -/

/-- A column as it is handed over: its name and its values, and the kind that is asked for. -/
structure RawColumn where
  name : Datum
  kind : ColumnKind
  values : List Datum
deriving Repr

/-- The column that is built from what was handed over; null is no name. -/
def RawColumn.build (c : RawColumn) : Except ColumnDefect Column :=
  match c.name with
  | .text name => Column.ofValues name c.kind c.values
  | .null => Column.ofValues "" c.kind c.values
  | _ => .error .nameNotText

/-- A result. -/
structure Frame where
  columns : List Column
deriving Repr

namespace Frame

/-- The number of rows. -/
def height (f : Frame) : Nat :=
  (f.columns.head?.map (·.values.length)).getD 0

/-- The column with a name. -/
def column? (f : Frame) (name : String) : Option Column :=
  f.columns.find? (·.name == name)

/-- The rows, each with one value of every column. -/
def rows (f : Frame) : List (List Datum) :=
  (List.range f.height).map fun i => f.columns.map fun c => c.values.getD i .null

/-! ## Reading -/

/-- The fault of a day that has no date. -/
def dayFault? (epochDay : Int) : Option Fault :=
  match Date.ofCount (epochDay + Date.epochOrdinal) with
  | .ok _ => none
  | .error e => some ⟨e.kind, e.message, if e.isFatal then .fatal else .value⟩

/-- Why a value of a kind cannot be read. -/
def valueFault? : ColumnKind → Datum → Option Fault
  | .date, .int days => dayFault? days
  | .moment .., .int microseconds => dayFault? (microseconds.fdiv Moment.dayLength)
  | .list inner, .list items => items.findSome? (valueFault? inner)
  | _, _ => none

/-- Why a row cannot be read. -/
def unreadable? (f : Frame) (row : Nat) : Option Fault :=
  f.columns.findSome? fun c => valueFault? c.kind (c.values.getD row .null)

/-! ## Building -/

/-- The defect of two columns that cannot stand in one result. -/
def clash? (first second : Column) : Option ColumnDefect :=
  if first.name = second.name then some (.repeatedName first.name)
  else if first.values.length ≠ second.values.length then
    some (.unevenHeights second.name second.values.length first.name first.values.length)
  else none

/-- The first pair of columns that clash, each with those behind it. -/
def firstClash? : List Column → Option ColumnDefect
  | [] => none
  | first :: rest => (rest.findSome? (clash? first)).or (firstClash? rest)

/-- The columns with names: one that has none is named by its place. -/
def named (columns : List Column) : List Column :=
  columns.zipIdx.map fun (c, i) => if c.name = "" then { c with name := "column_" ++ natText i } else c

/-- The result of some columns, each built in turn. -/
def ofColumns (columns : List RawColumn) : Except ColumnDefect Frame := do
  let built := named (← columns.mapM RawColumn.build)
  match firstClash? built with
  | some defect => .error defect
  | none => return ⟨built⟩

/-- The number of values in the shortest row. -/
def commonWidth : List (List Datum) → Nat
  | [] => 0
  | [row] => row.length
  | row :: rest => min row.length (commonWidth rest)

/-- The columns of rows, as many as the shortest row has values. -/
def columnsOf (rows : List (List Datum)) : List (List Datum) :=
  (List.range (commonWidth rows)).map fun k => rows.map fun row => row.getD k .null

/-- The columns that a schema and rows describe; without any row every column is empty. -/
def describedColumns (schema : Schema) (rows : List (List Datum)) : List RawColumn :=
  let values := if rows.isEmpty then schema.map fun _ => [] else columnsOf rows
  (schema.zip values).map fun ((name, kind), values) => ⟨name, kind, values⟩

/-- The result with the given rows. -/
def ofRows (schema : Schema) (rows : List (List Datum)) : Except ColumnDefect Frame :=
  ofColumns (describedColumns schema rows)

end Frame

end SplitExport
