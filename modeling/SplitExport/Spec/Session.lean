import SplitExport.Log.Journal
import SplitExport.Spec.Build

/-!
# Sessions — builds one after the other, in one thread

* `FieldValue` is a value for one field of a specification; `ExportSpec.overwrite` writes it without
  any check.
* A `Session` is the specification at hand and the journal of the thread. A `Step` builds the queries
  of the specification, overwrites one of its fields, or clears the context of the messages.
* `Session.step` carries out one step, and `Session.run` one after the other.
-/

namespace SplitExport

open SplitExport.Calendar SplitExport.Log SplitExport.Sql

/-! ## Writing fields -/

/-- A value for one field of a specification. -/
inductive FieldValue where
  | table (value : Option String)
  | base (value : BaseQuery)
  | limit (value : Option Int)
  | partitionColumn (value : Option String)
  | partition (value : Option Date)
  | period (value : String)
  | splitColumn (value : Option String)
  | parallelism (value : Option Int)
deriving DecidableEq, Repr

/-- The specification with a field overwritten. -/
def ExportSpec.overwrite (s : ExportSpec) : FieldValue → ExportSpec
  | .table value => { s with table := value }
  | .base value => { s with base := value }
  | .limit value => { s with limit := value }
  | .partitionColumn value => { s with partitionColumn := value }
  | .partition value => { s with partition := value }
  | .period value => { s with period := value }
  | .splitColumn value => { s with splitColumn := value }
  | .parallelism value => { s with parallelism := value }

/-! ## Sessions -/

/-- What is done in a session. -/
inductive Step where
  /-- Builds the queries, writing about it from a level on. -/
  | build (executor : Option Executor) (level : Level)
  | overwrite (value : FieldValue)
  | clearContext
deriving Repr

/-- The specification at hand, and the journal of the thread with the records of the last build. -/
structure Session where
  spec : ExportSpec
  journal : Journal := {}
deriving Repr

namespace Session

/-- Carries out a step: the build, if the step makes one, and the session afterwards. -/
def step (settings : Settings) (s : Session) : Step → Option BuildRun × Session
  | .build executor level =>
    let built := s.spec.build settings executor
    (some built, { s with journal := { s.journal with level, records := [] }.logAll built.events })
  | .overwrite value => (none, { s with spec := s.spec.overwrite value })
  | .clearContext => (none, { s with journal := s.journal.log .contextCleared })

/-- Carries out steps: the builds that they make, and the session afterwards. -/
def run (settings : Settings) (s : Session) : List Step → List BuildRun × Session
  | [] => ([], s)
  | first :: rest =>
    let (built, next) := s.step settings first
    let (more, last) := next.run settings rest
    (built.toList ++ more, last)

end Session

end SplitExport
