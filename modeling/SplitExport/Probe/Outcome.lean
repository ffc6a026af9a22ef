import SplitExport.Fault
import SplitExport.Datum
import SplitExport.Column.Kind

/-!
# Probe outcomes — the bounds of a split column, or why there are none

A probe has an outcome: bounds, or a failure that its caller may look at. `Outcome.unwrap` takes the
bounds and raises the failure. What goes wrong beside that is a `ProbeFault`.
-/

namespace SplitExport.Probe

open SplitExport.Text

/-- The least and the greatest value of a split column. -/
structure Bounds where
  min : Int
  max : Int
deriving DecidableEq, Repr

/-- Why a probe of a column gave no bounds. -/
inductive Failure where
  /-- The answer has no row. -/
  | noRows
  /-- The column does not hold integers. -/
  | notIntegral (column : String) (kind : ColumnKind)
  /-- The statement failed. -/
  | executionFailed (column : String) (cause : Fault)
deriving DecidableEq, Repr

namespace Failure

/-- The short name of a failure. -/
def label : Failure → String
  | .noRows => "no_rows"
  | .notIntegral .. => "not_integral"
  | .executionFailed .. => "execution_failed"

/-- The failure in words. -/
def message : Failure → String
  | .noRows => "Result Set for Min/Max returned zero records"
  | .notIntegral column kind =>
    "splitColumn should be of type Integer / Long, '" ++ column ++ "' is " ++ kind.name
  | .executionFailed column cause =>
    "Bounds query failed for split column '" ++ column ++ "': " ++ cause.text

/-- The name of the class of errors that a failure is raised as. -/
def kind : Failure → String
  | .noRows => "EmptyProbeResultError"
  | .notIntegral .. => "SplitColumnTypeError"
  | .executionFailed .. => "QueryExecutionError"

/-- The wider classes of errors that a failure belongs to. -/
def families : Failure → List String
  | .noRows => ["BoundsProbeError", "RuntimeError"]
  | .notIntegral .. => ["BoundsProbeError", "ValueError"]
  | .executionFailed .. => ["BoundsProbeError"]

/-- The fault behind a failure. -/
def cause? : Failure → Option Fault
  | .executionFailed _ cause => some cause
  | _ => none

end Failure

/-- What a probe found out. -/
inductive Outcome where
  | bounds (b : Bounds)
  | failure (f : Failure)
deriving DecidableEq, Repr

/-- The bounds, or the failure as an error. -/
def Outcome.unwrap : Outcome → Except Failure Bounds
  | .bounds b => .ok b
  | .failure f => .error f

/-- What goes wrong beside a failure. -/
inductive ProbeFault where
  /-- The answer lacks one of the two columns. -/
  | missingColumn (name : String)
  /-- The values cannot be told. -/
  | oversize (cause : Number.OversizeInteger)
  /-- The greatest value is no integer. -/
  | conversion (cause : Datum.ConversionError)
  /-- The statement, or reading its answer, met a fault that a probe does not handle. -/
  | escaped (cause : Fault)
deriving DecidableEq, Repr

namespace ProbeFault

/-- The cause in words. -/
def message : ProbeFault → String
  | .missingColumn name => quoted name
  | .oversize cause => cause.message
  | .conversion cause => cause.message
  | .escaped cause => cause.text

/-- The name of the class of errors that a cause belongs to. -/
def kind : ProbeFault → String
  | .missingColumn _ => "KeyError"
  | .oversize _ => "ValueError"
  | .conversion (.infinite _) => "OverflowError"
  | .conversion (.wrongType _) => "TypeError"
  | .conversion _ => "ValueError"
  | .escaped cause => cause.name

/-- Whether nobody handles a cause. -/
def isFatal : ProbeFault → Bool
  | .escaped cause => cause.isFatal
  | _ => false

end ProbeFault

end SplitExport.Probe
