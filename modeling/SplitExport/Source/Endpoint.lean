import SplitExport.Log.Event
import SplitExport.Settings
import SplitExport.Source.Executor

/-!
# Endpoints — where a database is, and how to connect to it

* `Endpoint` holds what is known of a database; each part may be missing.
* `Endpoint.callOf` finds the call that connects to it, or what stands in its way: the parts are needed
  in the order in which the call lists them, and the port falls back to the database's own.
* `Endpoint.connect` makes the call, after a note that it will be made.
-/

namespace SplitExport

open SplitExport.Log SplitExport.Text

/-- What is known of a database. -/
structure Endpoint where
  host : Option Datum := none
  port : Option Datum := none
  database : Option Datum := none
  username : Option Datum := none
  password : Option Datum := none
  readOnly : Option Datum := none
deriving Repr

/-! ## Causes -/

/-- Why no connection can be asked for. -/
inductive EndpointError where
  /-- There is no driver for a database. -/
  | unsupported (database : String)
  /-- A part of the endpoint is missing. -/
  | missing (part : String)
  /-- A database has no port of its own. -/
  | noPort (database : String)
deriving DecidableEq, Repr

namespace EndpointError

/-- The cause in words. -/
def message : EndpointError → String
  | .unsupported database => "Unsupported database type for data source: " ++ database
  | .missing part => quoted part
  | .noPort database => "No default port known for database type: " ++ database

/-- The name of the class of errors that a cause belongs to. -/
def kind : EndpointError → String
  | .missing _ => "KeyError"
  | _ => "ValueError"

end EndpointError

/-! ## Calls -/

/-- A call of a driver: arguments by place and by name. -/
structure ConnectCall where
  driver : Driver
  arguments : List Datum
  options : List (String × Datum)
deriving Repr

/-- Why there is no connection. -/
inductive ConnectionError where
  /-- Nothing can be asked for. -/
  | endpoint (cause : EndpointError)
  /-- The call failed. -/
  | refused (cause : Fault)
deriving DecidableEq, Repr

namespace ConnectionError

/-- The cause in words. -/
def message : ConnectionError → String
  | .endpoint cause => cause.message
  | .refused cause => cause.text

/-- The name of the class of errors that a cause belongs to. -/
def kind : ConnectionError → String
  | .endpoint cause => cause.kind
  | .refused cause => cause.name

end ConnectionError

/-- An attempt to connect: the calls that were made, what happened, and the open source. -/
structure Connection where
  calls : List ConnectCall := []
  events : List Event := []
  result : Except ConnectionError Source

/-- The port of a database that names none. -/
def Settings.portOf (settings : Settings) (database : String) : Except EndpointError Datum :=
  match settings.ports.lookup (lower database) with
  | some port => .ok port
  | none => .error (.noPort database)

namespace Endpoint

/-- A part that must be known. -/
def require (part : String) (value : Option Datum) : Except EndpointError Datum :=
  match value with
  | some datum => .ok datum
  | none => .error (.missing part)

/-- The options of a connection over a network. -/
def networkOptions (settings : Settings) (database : String) (e : Endpoint) :
    Except EndpointError (List (String × Datum)) := do
  let host ← require "host" e.host
  let port ← match e.port.filter Datum.isTruthy with
    | some port => pure port
    | none => settings.portOf database
  let name ← require "database" e.database
  let user ← require "username" e.username
  let password ← require "password" e.password
  return [("host", host), ("port", port), ("database", name), ("user", user), ("password", password)]

/-- The call that connects to a database. -/
def callOf (settings : Settings) (driver : Driver) (database : String) (e : Endpoint) :
    Except EndpointError ConnectCall :=
  match driver with
  | .duckdb =>
    match e.database.filter Datum.isTruthy with
    | none => .ok ⟨driver, [.text ":memory:"], []⟩
    | some name => .ok ⟨driver, [name], [("read_only", e.readOnly.getD (.bool false))]⟩
  | _ => do return ⟨driver, [], ← e.networkOptions settings (lower database)⟩

/-- The note that a connection is made, for a database that is reached over a network and whose host is
    known. -/
def announcement? (driver : Driver) (database : String) (e : Endpoint) : Option String :=
  match driver, e.host with
  | .duckdb, _ | _, none => none
  | _, some host => some ("Connecting to " ++ lower database ++ " at " ++ host.display)

/-! ## Connecting -/

/-- Connects to a database: at most one call of `reach`, which makes it. -/
def connect (settings : Settings) (reach : ConnectCall → Except Fault Source) (database : String)
    (e : Endpoint) : Connection :=
  match Driver.ofDatabase? database with
  | none => { result := .error (.endpoint (.unsupported database)) }
  | some driver =>
    let events := (e.announcement? driver database).toList.map (Event.note .debug)
    match e.callOf settings driver database with
    | .error cause => { events, result := .error (.endpoint cause) }
    | .ok call => { calls := [call], events, result := (reach call).mapError .refused }

end Endpoint

end SplitExport
