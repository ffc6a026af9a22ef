import SplitExport.Column.Catalog
import SplitExport.Column.Frame
import SplitExport.Fault

/-!
# Descriptions — what a database tells about the columns of a result

A database describes every column by its name and its type code: as two items of a tuple, or as
attributes of an object. An attribute that is null or empty is looked up among the object's items.

`schemaOf` reads the descriptions in order with a catalog of types.
-/

namespace SplitExport

/-- The description of one column. -/
inductive ColumnDescription where
  /-- A tuple with the name and the type code in front. -/
  | positional (items : List Datum)
  /-- An object; an attribute that it does not have is null. -/
  | named (name typeCode : Datum) (items : List Datum)
deriving Repr

/-! ## Causes -/

/-- Why a result cannot be described. -/
inductive DescriptionError where
  /-- There is no description. -/
  | absent
  /-- A tuple has too few items. -/
  | shortTuple
  /-- The items of an object are too few. -/
  | shortItems
  /-- A name or a type code of this type cannot be looked up. -/
  | unhashable (typeName : String)
  /-- A name or a type code is a decimal that signals that it is no number. -/
  | signaling
deriving DecidableEq, Repr

/-- The fault that a cause is reported as. -/
def DescriptionError.fault : DescriptionError → Fault
  | .absent => ⟨"TypeError", "'NoneType' object is not iterable", .other⟩
  | .shortTuple => ⟨"IndexError", "tuple index out of range", .other⟩
  | .shortItems => ⟨"IndexError", "list index out of range", .other⟩
  | .unhashable typeName => ⟨"TypeError", "unhashable type: '" ++ typeName ++ "'", .other⟩
  | .signaling => ⟨"TypeError", "Cannot hash a signaling NaN value", .other⟩

/-! ## Reading -/

namespace ColumnDescription

/-- An attribute, or the item at a place if the attribute says nothing. -/
def attributeOr (given : Datum) (items : List Datum) (place : Nat) :
    Except DescriptionError Datum :=
  if given.isTruthy then .ok given
  else (items[place]?).elim (.error .shortItems) .ok

/-- The name of a column. -/
def name : ColumnDescription → Except DescriptionError Datum
  | .positional items => (items[0]?).elim (.error .shortTuple) .ok
  | .named name _ items => attributeOr name items 0

/-- The type code of a column. -/
def typeCode : ColumnDescription → Except DescriptionError Datum
  | .positional items => (items[1]?).elim (.error .shortTuple) .ok
  | .named _ typeCode items => attributeOr typeCode items 1

end ColumnDescription

/-- A datum that can be looked up: lists, records and signaling decimals cannot. -/
def lookedUp : Datum → Except DescriptionError Datum
  | .list items => .error (.unhashable (Datum.list items).typeName)
  | .record fields => .error (.unhashable (Datum.record fields).typeName)
  | .special d => if d.isSignaling then .error .signaling else .ok (.special d)
  | datum => .ok datum

/-- The name of the type with a code. -/
def typeNameOfCode (catalog : Catalog) (code : Datum) : Except DescriptionError String :=
  (lookedUp code).map catalog.typeName

/-- The name and the kind of a described column. -/
def ColumnDescription.read (catalog : Catalog) (column : ColumnDescription) :
    Except DescriptionError (Datum × ColumnKind) := do
  let name ← column.name
  let typeName ← typeNameOfCode catalog (← column.typeCode)
  return (← lookedUp name, catalog.kindOf typeName)

/-- The schema of described columns. -/
def schemaOf (catalog : Catalog) (columns : List ColumnDescription) :
    Except DescriptionError Schema :=
  columns.foldlM (fun schema column => do
    let (name, kind) ← column.read catalog
    return schema.insert name kind) []

end SplitExport
