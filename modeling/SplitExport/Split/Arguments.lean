import SplitExport.Number.Integer

/-!
# Split arguments — a column to split on, and how many queries at a time

An export is split on a column into a positive number of queries, or not at all: one argument without
the other is refused.
-/

namespace SplitExport

open SplitExport.Number SplitExport.Text

/-- Why split arguments do not fit each other. -/
inductive SplitError where
  | columnMissing
  | parallelismMissing
  | notPositive (parallelism : Int)
deriving DecidableEq, Repr

/-- The cause in words. -/
def SplitError.message : SplitError → String
  | .columnMissing =>
    "Cannot use queryParallelism because no column to split is specified. " ++
      "Please specify column to use for splitting using --split-column"
  | .parallelismMissing =>
    "argument splitColumn has no effect since --query-parallelism is not specified"
  | .notPositive parallelism =>
    ifWritten (isWritable parallelism)
      ("Query Parallelism must be a positive number. Specified queryParallelism was " ++
        intText parallelism)

/-- How an export is split. -/
structure SplitPlan where
  column : String
  parallelism : Int
  parallelism_pos : 0 < parallelism
deriving Repr

/-- The plan that a column and a parallelism make, none if both are absent. -/
def splitPlan : Option String → Option Int → Except SplitError (Option SplitPlan)
  | none, none => .ok none
  | none, some _ => .error .columnMissing
  | some _, none => .error .parallelismMissing
  | some column, some parallelism =>
    if h : 0 < parallelism then .ok (some ⟨column, parallelism, h⟩)
    else .error (.notPositive parallelism)

end SplitExport
