import SplitExport.Partition.Date
import SplitExport.Partition.Period
import SplitExport.Partition.Window
import SplitExport.Settings
import SplitExport.Split.Arguments
import SplitExport.Sql.BaseQuery
import SplitExport.Sql.Clause

/-!
# Export specifications — what to export, and how it is divided

* `ExportSpec` describes one export: a base query, at most a number of rows, a window of a partition
  column, and the split.
* `ExportSpec.ofFields` checks the fields and brings the period and the date to their normal forms;
  `ExportSpec.create` starts from a table name and optionally a query given as text.
* Its conditions are texts that are added to the base query.
-/

namespace SplitExport

open SplitExport.Calendar SplitExport.Partition SplitExport.Sql SplitExport.Text

/-! ## Causes -/

/-- Why there is no specification for some arguments. -/
inductive SpecError where
  | tableMissing
  | query (cause : QueryError)
  | split (cause : SplitError)
  | negativeLimit (limit : Int)
  | period (cause : PeriodError)
  | date (cause : DateError)
deriving Repr

/-- The cause in words. -/
def SpecError.message : SpecError → String
  | .tableMissing => "TableName cannot be null"
  | .query cause => cause.message
  | .split cause => cause.message
  | .negativeLimit limit =>
    Number.ifWritten (Number.isWritable limit) ("Limit must not be negative, got " ++ intText limit)
  | .period cause => cause.message
  | .date cause => cause.message

/-- The name of the class of errors that a cause belongs to. -/
def SpecError.kind : SpecError → String
  | .period cause => cause.kind
  | _ => "ValueError"

/-! ## Specifications -/

/-- The description of an export. -/
structure ExportSpec where
  /-- The table that the export is known by. -/
  table : Option String
  base : BaseQuery
  limit : Option Int := none
  partitionColumn : Option String := none
  partition : Option Date := none
  period : String
  splitColumn : Option String := none
  parallelism : Option Int := none
deriving DecidableEq, Repr

/-- The arguments of a specification, before they are checked. -/
structure SpecArguments where
  table : Option String
  rawSql : Option String := none
  limit : Option Int := none
  partitionColumn : Option String := none
  /-- The first day of the partition; null for none. -/
  partition : Datum := .null
  /-- The length of the partition; null for the default. -/
  period : Datum := .null
  splitColumn : Option String := none
  parallelism : Option Int := none
deriving Repr

/-- A field of a specification cannot be assigned to. -/
structure FrozenField where
  name : String
deriving DecidableEq, Repr

/-- The cause in words. -/
def FrozenField.message (e : FrozenField) : String :=
  "cannot assign to field " ++ quoted e.name

namespace ExportSpec

/-- The specification with the given fields, a null partition being none: the split arguments, the
    limit, the period and the partition are checked in this order. -/
def ofFields (settings : Settings) (table : Option String) (base : BaseQuery) (limit : Option Int)
    (partitionColumn : Option String) (partition period : Datum) (splitColumn : Option String)
    (parallelism : Option Int) : Except SpecError ExportSpec := do
  let _ ← (splitPlan splitColumn parallelism).mapError .split
  if let some n := limit then
    if n < 0 then .error (.negativeLimit n)
  let period ← (normalizePeriod settings.periodUnits period).mapError .period
  let partition ← match partition with
    | .null => pure none
    | given => ((startDate given).map some).mapError .date
  return { table, base, limit, partitionColumn, partition, period, splitColumn, parallelism }

/-- The base query of a table, or the one that is given as text; the name of the table is checked in
    either case. -/
def baseOf (settings : Settings) (table : Option String) (rawSql : Option String) :
    Except SpecError BaseQuery := do
  let some name := table | .error .tableMissing
  let whole ← (BaseQuery.ofTable name).mapError .query
  match rawSql with
  | some source => (BaseQuery.ofRaw settings.rawAlias source).mapError .query
  | none => return whole

/-- The period of a specification; null is the default. -/
def periodOr (settings : Settings) : Datum → Datum
  | .null => settings.defaultPeriod
  | given => given

/-- The specification for some arguments. -/
def create (settings : Settings) (a : SpecArguments) : Except SpecError ExportSpec := do
  let base ← baseOf settings a.table a.rawSql
  ofFields settings a.table base a.limit a.partitionColumn a.partition (periodOr settings a.period)
    a.splitColumn a.parallelism

/-- Assigning to a field is refused. -/
def assign (_ : ExportSpec) (field : String) : Except FrozenField Unit :=
  .error ⟨field⟩

/-- Whether an export is split. -/
def isSplit (s : ExportSpec) : Bool :=
  s.splitColumn.isSome && s.parallelism.isSome

/-! ## Conditions -/

/-- The clause of the limit. -/
def limitCondition (s : ExportSpec) : Except Number.OversizeInteger String :=
  s.limit.elim (.ok "") limitClause

/-- The clause of the partition, from its first day to the first day of the next. -/
def partitionCondition (s : ExportSpec) : Except WindowError String :=
  match s.partitionColumn, s.partition with
  | some column, some start => do
    let stop ← nextStart start s.period
    return windowClause column start.iso stop.iso
  | _, _ => .ok ""

end ExportSpec

end SplitExport
