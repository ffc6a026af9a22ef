import SplitExport.Source.Database

/-!
# Executors — running statements on a source

An executor sends a statement to its source and makes a frame of the answer.

* A direct executor gets frames from its source.
* A cursor executor opens a cursor for every statement, reads the description with the catalog of its
  database, fetches the rows, and closes the cursor whatever happens in between.
-/

namespace SplitExport

open SplitExport.Text

/-! ## Drivers -/

/-- The three ways to talk to a database. -/
inductive Driver where
  | postgres
  | vertica
  | duckdb
deriving DecidableEq, Repr

namespace Driver

/-- The driver for a database, whose name may be written in any case. -/
def ofDatabase? (database : String) : Option Driver :=
  match lower database with
  | "postgresql" | "greenplum" => some .postgres
  | "vertica" => some .vertica
  | "duckdb" => some .duckdb
  | _ => none

/-- The name of the executor that a driver's connections get. -/
def executorName : Driver → String
  | .postgres => "PostgresQueryExecutor"
  | .vertica => "VerticaQueryExecutor"
  | .duckdb => "DuckDBQueryExecutor"

/-- The catalog of a driver that works with cursors. -/
def catalog? : Driver → Option Catalog
  | .postgres => some .postgresql
  | .vertica => some .vertica
  | .duckdb => none

end Driver

/-! ## Executors -/

/-- A source with the way to talk to it. -/
structure Executor where
  /-- The driver of the connection; none for a source that answers in frames by itself. -/
  driver : Option Driver
  source : Source
deriving Repr

/-- No executor works with the connections of a database. -/
structure UnsupportedConnection where
  database : String
deriving DecidableEq, Repr

/-- The cause in words. -/
def UnsupportedConnection.message (e : UnsupportedConnection) : String :=
  "Unsupported database type: " ++ e.database

namespace Executor

/-- The executor of an open connection to a database, whose name may be written in any case. -/
def ofConnection (database : String) (source : Source) : Except UnsupportedConnection Executor :=
  match Driver.ofDatabase? database with
  | some driver => .ok ⟨some driver, source⟩
  | none => .error ⟨database⟩

/-- The executor of a source that answers in frames. -/
def direct (source : Source) : Executor :=
  ⟨none, source⟩

/-- The catalog for reading descriptions, for a source that works with cursors. -/
def catalog? (e : Executor) : Option Catalog :=
  e.driver.bind Driver.catalog?

/-- The frame that a reply makes without a cursor. -/
def frameOf : Reply → Except Fault Frame
  | .columns columns => (Frame.ofColumns columns).mapError ColumnDefect.fault
  | .refusal fault => .error fault
  | .rows .. => .error ⟨"KeyError", "'columns'", .other⟩

/-- The frame that a reply makes through a cursor: the description is read before the rows are
    fetched. -/
def fetch (catalog : Catalog) : Reply → Except Fault Frame
  | .refusal fault => .error fault
  | .columns _ | .rows none _ _ => .error DescriptionError.absent.fault
  | .rows (some description) rows fetchFault => do
    let schema ← (schemaOf catalog description).mapError DescriptionError.fault
    match fetchFault with
    | some fault => .error fault
    | none => (Frame.ofRows schema rows).mapError ColumnDefect.fault

/-- Runs a statement: the frame or the fault, and the executor afterwards. -/
def execute (e : Executor) (sql : String) : Except Fault Frame × Executor :=
  match e.catalog? with
  | none => (frameOf e.source.nextReply, { e with source := e.source.send sql })
  | some catalog =>
    (fetch catalog e.source.nextReply,
      { e with source := (e.source.openCursor.send sql).closeCursor })

/-- Closes the connection. -/
def close (e : Executor) : Executor :=
  { e with source := e.source.close }

end Executor

end SplitExport
