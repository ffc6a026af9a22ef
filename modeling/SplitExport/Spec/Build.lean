import SplitExport.Probe.Run
import SplitExport.Spec.Basic
import SplitExport.Sql.ExportQuery

/-!
# Building — from a specification to the queries of its export

* The split arguments are checked and the condition of the partition is made before anything is asked.
* Without a split there is one query. With a split the bounds of the column are probed, once, and each
  range of the chunking gets a query with its share of the limit.
* `ExportSpec.build` also tells what happened: the start, the probe, the ranges, and the end. An error
  that nobody handles is not told: the build just stops. So does a build whose start cannot be told, since
  its parallelism has too many digits.
-/

namespace SplitExport

open SplitExport.Log SplitExport.Number SplitExport.Partition SplitExport.Probe SplitExport.Sql

/-! ## Causes -/

/-- Why the queries of an export cannot be built. -/
inductive BuildError where
  /-- The start cannot be told. -/
  | start (cause : OversizeInteger)
  | split (cause : SplitError)
  /-- There is no window of the period. -/
  | window (period : String) (cause : WindowError)
  /-- The limit, or the share of it, cannot be written. -/
  | limit (cause : OversizeInteger)
  | executorMissing
  | probe (cause : Failure)
  | answer (cause : ProbeFault)
  | chunking (cause : ChunkingError)
deriving DecidableEq, Repr

namespace BuildError

/-- The cause in words. -/
def message : BuildError → String
  | .start cause | .limit cause => cause.message
  | .split cause => cause.message
  | .window period cause => cause.message period
  | .executorMissing => "A query executor is required to find split column bounds"
  | .probe cause => cause.message
  | .answer cause => cause.message
  | .chunking cause => cause.message

/-- The name of the class of errors that a cause belongs to. -/
def kind : BuildError → String
  | .start _ | .split _ | .limit _ | .executorMissing => "ValueError"
  | .window _ cause => cause.kind
  | .probe cause => cause.kind
  | .answer cause => cause.kind
  | .chunking cause => cause.kind

/-- Whether nobody handles a cause. -/
def isFatal : BuildError → Bool
  | .window _ cause => cause.isFatal
  | .answer cause => cause.isFatal
  | _ => false

/-- Whether the end of a build with a cause is told: a start that was not told has no end either, and
    nobody tells of a cause that nobody handles. -/
def isTold : BuildError → Bool
  | .start _ => false
  | cause => !cause.isFatal

/-- The end of a build that failed. -/
def event (e : BuildError) : Event :=
  .failed e.kind e.message

end BuildError

/-! ## Runs -/

/-- A build that was made: its queries or why there are none, what happened, and the executor
    afterwards. -/
structure BuildRun where
  result : Except BuildError (List String)
  events : List Event
  executor : Option Executor

/-- What there is to tell of an end. -/
def BuildRun.endEvents : Except BuildError (List String) → List Event
  | .ok queries => [.built queries.length]
  | .error e => if e.isTold then [e.event] else []

/-- The build that goes through some events to its end. -/
def BuildRun.finish (events : List Event) (executor : Option Executor)
    (result : Except BuildError (List String)) : BuildRun :=
  { result, events := events ++ endEvents result, executor }

/-! ## Queries -/

namespace ExportSpec

/-- The queries of an export that is not split: one, with the whole limit. -/
def wholeQueries (s : ExportSpec) (condition : String) : Except BuildError (List String) :=
  (s.limitCondition.map fun limit => [assemble s.base.text condition "" limit]).mapError .limit

/-- The clause of the limit of one of several queries: its share, rounded down. -/
def shareCondition (s : ExportSpec) (parallelism : Int) : Except OversizeInteger String :=
  s.limit.elim (.ok "") fun limit => limitClause (limit.fdiv parallelism)

/-- The chunking of the values between bounds. -/
def chunkingOf (plan : SplitPlan) (b : Bounds) : Chunking :=
  ⟨b.min, b.max, plan.parallelism, plan.parallelism_pos⟩

/-- The queries between bounds, and the event of the division if it was made. -/
def splitQueries (s : ExportSpec) (plan : SplitPlan) (condition : String) (b : Bounds) :
    List Event × Except BuildError (List String) :=
  let chunking := chunkingOf plan b
  match s.shareCondition plan.parallelism, chunking.ranges with
  | .error e, _ => ([], .error (.limit e))
  | .ok _, .error e => ([], .error (.chunking e))
  | .ok limit, .ok ranges =>
    let queries := queriesForRanges plan.column s.base.text condition limit ranges
    ([.rangesCalculated ranges.length chunking.width], queries.mapError fun e => .chunking (.oversize e))

/-! ## Builds -/

/-- The build of an export that is split, once its condition is known. -/
def buildSplit (settings : Settings) (s : ExportSpec) (plan : SplitPlan) (condition : String)
    (started : Event) (executor : Executor) : BuildRun :=
  let probed := Probe.run settings executor s.base condition plan.column
  let events := started :: probed.events
  let executor := some probed.executor
  match probed.outcome with
  | .error fault => .finish events executor (.error (.answer fault))
  | .ok outcome =>
    match outcome.unwrap with
    | .error failure => .finish events executor (.error (.probe failure))
    | .ok b =>
      let (divided, queries) := s.splitQueries plan condition b
      .finish (events ++ divided) executor queries

/-- The build of an export whose start has been told. -/
def buildStarted (settings : Settings) (s : ExportSpec) (started : Event) (executor : Option Executor) :
    BuildRun :=
  match splitPlan s.splitColumn s.parallelism with
  | .error e => .finish [started] executor (.error (.split e))
  | .ok plan =>
    match s.partitionCondition with
    | .error e => .finish [started] executor (.error (.window s.period e))
    | .ok condition =>
      match plan, executor with
      | none, _ => .finish [started] executor (s.wholeQueries condition)
      | some _, none => .finish [started] none (.error .executorMissing)
      | some plan, some executor => s.buildSplit settings plan condition started executor

/-- What a build says at its start. -/
def started (s : ExportSpec) : Event :=
  .started s.table s.splitColumn s.parallelism

/-- The context of a specification, with a number of queries. -/
def context (s : ExportSpec) (queryCount : Int) : Context where
  table := s.table
  splitColumn := s.splitColumn
  parallelism := s.parallelism
  queryCount

/-- Builds the queries of an export; the executor is needed for a split only. If the start cannot be told,
    the messages are about the export from then on, but nothing else happens. -/
def build (settings : Settings) (s : ExportSpec) (executor : Option Executor) : BuildRun :=
  if s.started.isWritten then s.buildStarted settings s.started executor
  else .finish [.contextSet (s.context 0)] executor (.error (.start {}))

end ExportSpec

end SplitExport
