import SplitExport.Command.Usage
import SplitExport.Files.Defect
import SplitExport.Files.Path
import SplitExport.Source.Endpoint
import SplitExport.Spec.Build
import SplitExport.Text.Json
import SplitExport.Text.Utf8

/-!
# Running the command — from a command line to printed queries

* `run` reads the command line, makes the specification, connects if the export is split, builds the
  queries, closes the connection, and prints.
* `Surroundings` are what the command finds around it: files, a password, and databases to connect to.
* `CommandError.report?` gives the line that an error is reported with; errors without one leave the
  command as they are.
-/

namespace SplitExport.Command

open SplitExport.Files SplitExport.Log SplitExport.Text

/-! ## Surroundings and results -/

/-- What the command finds around it. -/
structure Surroundings where
  settings : Settings := {}
  /-- The octets of the files, by their paths. -/
  files : String → Except FileError (List UInt8)
  password : String := ""
  /-- Connecting to a database. -/
  connect : ConnectCall → Except Fault Source

/-- How the command ends. -/
inductive Ending where
  /-- With an exit code. -/
  | finished (code : Nat)
  /-- With an exit code, before it started its work. -/
  | left (code : Nat)
  /-- With an error that nobody handled. -/
  | escaped (kind message : String)
  /-- With an error that nobody can handle. -/
  | aborted (kind message : String)
deriving DecidableEq, Repr

/-- All that can be seen of a run. -/
structure CommandRun where
  ending : Ending
  stdout : String := ""
  stderr : String := ""
  calls : List ConnectCall := []
  /-- The connection that was opened, as it was left. -/
  source : Option Source := none
  events : List Event := []

/-! ## Errors -/

/-- Why the command does not print queries. -/
inductive CommandError where
  | file (cause : FileError)
  | encoding (cause : Utf8Error)
  | spec (cause : SpecError)
  /-- A flag has no value where one is needed. -/
  | valueless (flag : Flag)
  | connection (cause : ConnectionError)
  | wrapping (cause : UnsupportedConnection)
  | build (cause : BuildError)

namespace CommandError

/-- The cause in words. -/
def message : CommandError → String
  | .file cause => cause.message
  | .encoding cause => cause.message
  | .spec cause => cause.message
  | .valueless flag => flag.name ++ " has no value"
  | .connection cause => cause.message
  | .wrapping cause => cause.message
  | .build cause => cause.message

/-- The name of the class of errors that a cause belongs to. -/
def kind : CommandError → String
  | .file _ => "OSError"
  | .encoding _ => "UnicodeDecodeError"
  | .spec cause => cause.kind
  | .wrapping _ => "ValueError"
  | .valueless .dbType => "AttributeError"
  | .valueless _ => "TypeError"
  | .connection cause => cause.kind
  | .build cause => cause.kind

/-- The text that an error is reported with, if it is handled: wrong values, refusals of the operating
    system and probes without bounds by their message, failures of a driver with the name of their
    class. -/
def report? (e : CommandError) : Option String :=
  match e with
  | .connection (.endpoint (.missing _)) => none
  | .connection (.endpoint _) => some e.message
  | .connection (.refused fault) =>
    match fault.family with
    | .value | .system => some fault.text
    | .database => some (fault.name ++ ": " ++ fault.text)
    | .other | .fatal => none
  | .file _ | .encoding _ | .build (.probe _) => some e.message
  | other => if other.kind = "ValueError" then some other.message else none

/-- Whether nobody can handle an error. -/
def isFatal : CommandError → Bool
  | .connection (.refused fault) => fault.isFatal
  | .build cause => cause.isFatal
  | _ => false

/-- How the command ends with an error that is not reported. -/
def ending (e : CommandError) : Ending :=
  if e.isFatal then .aborted e.kind e.message else .escaped e.kind e.message

end CommandError

/-! ## Steps -/

/-- The text of the file that holds the query, if there is one. -/
def sqlOf (w : Surroundings) (a : Arguments) : Except CommandError (Option String) :=
  match a.sqlFile.value? with
  | none => .ok none
  | some path => do
    let octets ← (w.files (tidy path)).mapError .file
    let text ← (decodeUtf8 octets).mapError .encoding
    return some (String.ofList (unifyLineEnds text))

/-- What a flag was given, as a datum: null if it was not given, and a list of nothing if it has no
    value. -/
def Given.datum {α : Type} (ofValue : α → Datum) : Given α → Datum
  | .absent => .null
  | .empty => .list []
  | .value a => ofValue a

/-- What a flag was given, as the name of a column. -/
def Given.columnName : Given String → Option String
  | .absent => none
  | .empty => some (Datum.list []).display
  | .value name => some name

/-- The value of a flag that may be absent but not empty. -/
def Given.required {α : Type} (flag : Flag) : Given α → Except CommandError (Option α)
  | .absent => .ok none
  | .empty => .error (.valueless flag)
  | .value a => .ok (some a)

/-- The number of queries at a time; without a value it is refused once there is a column to split
    on. -/
def parallelismOf (a : Arguments) : Except CommandError (Option Int) :=
  if a.queryParallelism = .empty ∧ a.splitColumn = .absent then .error (.spec (.split .columnMissing))
  else a.queryParallelism.required .queryParallelism

/-- The specification that the arguments ask for. The file is read before anything is checked; the table,
    the split arguments and the limit are checked in this order. -/
def specOf (w : Surroundings) (a : Arguments) : Except CommandError ExportSpec := do
  let rawSql ← sqlOf w a
  let table ← a.table.required .table
  let base ← (ExportSpec.baseOf w.settings table rawSql).mapError .spec
  let parallelism ← parallelismOf a
  let _ ← (splitPlan a.splitColumn.columnName parallelism).mapError (.spec ∘ .split)
  let limit ← a.limit.required .limit
  let period := ExportSpec.periodOr w.settings (a.partitionPeriod.datum .text)
  (ExportSpec.ofFields w.settings table base limit a.partitionColumn.columnName
    (a.partition.datum .text) period a.splitColumn.columnName parallelism).mapError .spec

/-- The database that the arguments name. -/
def endpointOf (w : Surroundings) (a : Arguments) : Endpoint where
  host := some (a.host.datum .text)
  port := some (a.port.datum .int)
  database := some (a.database.datum .text)
  username := some (a.username.datum .text)
  password := some (.text w.password)
  readOnly := some (.bool true)

/-- The printed queries. -/
def printed : Format → List String → String
  | .text, queries => String.join (queries.map (· ++ "\n"))
  | .json, queries => jsonArray queries ++ "\n"

/-- The ending and the printed texts of a result. -/
def CommandRun.ofResult (format : Format) (result : Except CommandError (List String)) : CommandRun :=
  match result with
  | .ok queries => { ending := .finished 0, stdout := printed format queries }
  | .error e =>
    match e.report? with
    | some text => { ending := .finished 1, stderr := "Error: " ++ text ++ "\n" }
    | none => { ending := e.ending }

/-- The format that the arguments ask for. -/
def Arguments.printFormat (a : Arguments) : Format :=
  a.format.value?.getD .text

/-- The events that stand for an event of a build whose split column has no name: the start names it, but
    the context of the messages does not. -/
def namelessEvents (event : Event) : List Event :=
  match event with
  | .started table _ parallelism =>
    .contextSet { table, parallelism } ::
      (event.message?.map fun (level, text) => Event.note level text).toList
  | other => [other]

/-- The run of a build that has an executor, whose connection is closed at the end. -/
def buildOn (w : Surroundings) (a : Arguments) (spec : ExportSpec) (executor : Executor) :
    CommandRun :=
  let built := spec.build w.settings (some executor)
  { CommandRun.ofResult a.printFormat (built.result.mapError .build) with
    source := built.executor.map (·.close.source)
    events := if a.splitColumn = .empty then built.events.flatMap namelessEvents else built.events }

/-- The run of an export that is split, on a database. -/
def buildFrom (w : Surroundings) (a : Arguments) (spec : ExportSpec) (database : String) : CommandRun :=
  let connection := (endpointOf w a).connect w.settings w.connect database
  let run := match connection.result with
    | .error e => CommandRun.ofResult a.printFormat (.error (.connection e))
    | .ok source =>
      match Executor.ofConnection database source with
      | .error e =>
        { CommandRun.ofResult a.printFormat (.error (.wrapping e)) with source := some source }
      | .ok executor => buildOn w a spec executor
  { run with calls := connection.calls, events := connection.events ++ run.events }

/-- Builds the queries of a specification, with a connection if the export is split. -/
def buildWith (w : Surroundings) (a : Arguments) (spec : ExportSpec) : CommandRun :=
  if spec.isSplit then
    match a.dbType.value? with
    | none => CommandRun.ofResult a.printFormat (.error (.valueless .dbType))
    | some database => buildFrom w a spec database
  else
    let built := spec.build w.settings none
    { CommandRun.ofResult a.printFormat (built.result.mapError .build) with events := built.events }

/-- Runs the command. -/
def run (w : Surroundings) (line : List String) : CommandRun :=
  match Request.read line with
  | .error e => { ending := .left 2, stderr := complaint e }
  | .ok .help => { ending := .left 0, stdout := help }
  | .ok (.run a) =>
    match specOf w a with
    | .error e => CommandRun.ofResult a.printFormat (.error e)
    | .ok spec => buildWith w a spec

end SplitExport.Command
