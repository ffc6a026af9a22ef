import SplitExport.Probe.Run

/-!
# Finding bounds — a probe whose failures are errors

A caller that has no use for a failure asks for the bounds alone. The failure of a probe is then an error that
keeps its message, its families and the fault behind it; what goes wrong beside a failure stays what it is.
-/

namespace SplitExport.Probe

/-- Why no bounds are found. -/
inductive FindError where
  /-- The probe failed. -/
  | failure (cause : Failure)
  /-- The probe met a fault. -/
  | fault (cause : ProbeFault)
deriving DecidableEq, Repr

namespace FindError

/-- The cause in words. -/
def message : FindError → String
  | .failure cause => cause.message
  | .fault cause => cause.message

/-- The name of the class of errors that a cause belongs to. -/
def kind : FindError → String
  | .failure cause => cause.kind
  | .fault cause => cause.kind

/-- The wider classes of errors of a probe that a cause belongs to. -/
def families : FindError → List String
  | .failure cause => cause.families
  | .fault _ => []

/-- The fault behind a cause. -/
def cause? : FindError → Option Fault
  | .failure cause => cause.cause?
  | .fault _ => none

end FindError

/-- The bounds that a probe of a column finds. -/
def find (settings : Settings) (executor : Executor) (base : Sql.BaseQuery) (condition column : String) :
    Except FindError Bounds := do
  let outcome ← (run settings executor base condition column).outcome.mapError .fault
  outcome.unwrap.mapError .failure

end SplitExport.Probe
