import SplitExport.Source.Executor

/-!
# Cursors — a statement as the calls that it makes on a connection

A statement needs a cursor. Sending it, reading the description of its result and fetching the rows may
each meet a fault, and the cursor is closed behind them whichever of them did. The rows are made a frame
when the cursor is closed, which may meet one more fault.

* A `SourceAction` is something that is done to a source; the first fault in a row of actions ends it.
* `Cursor.statement` is the row of actions that makes a statement.
-/

namespace SplitExport

/-- Something that is done to a source: it gives a result or meets a fault, and leaves a source. -/
abbrev SourceAction := ExceptT Fault (StateM Source)

/-- The result or the fault of an action on a source, and the source afterwards. -/
def SourceAction.on {α : Type} (action : SourceAction α) (source : Source) : Except Fault α × Source :=
  action.run.run source

namespace Cursor

/-- Opens the cursor. -/
def openAction : SourceAction Unit :=
  modify Source.openCursor

/-- Closes the cursor. -/
def closeAction : SourceAction Unit :=
  modify Source.closeCursor

/-- Sends a statement, and takes the reply unless that is a refusal. -/
def send (sql : String) : SourceAction Reply := do
  let reply := (← get).nextReply
  modify (·.send sql)
  match reply with
  | .refusal fault => throw fault
  | reply => return reply

/-- Reads the description of the result. -/
def describe (catalog : Catalog) : Reply → SourceAction Schema
  | .rows (some description) _ _ =>
    MonadExcept.ofExcept ((schemaOf catalog description).mapError DescriptionError.fault)
  | _ => throw DescriptionError.absent.fault

/-- Fetches the rows of the result. -/
def fetchRows : Reply → SourceAction (List (List Datum))
  | .rows _ _ (some fault) => throw fault
  | .rows _ rows none => return rows
  | _ => return []

/-- What a statement does while its cursor is open. -/
def exchange (catalog : Catalog) (sql : String) : SourceAction (Schema × List (List Datum)) := do
  let reply ← send sql
  let schema ← describe catalog reply
  let rows ← fetchRows reply
  return (schema, rows)

/-- Makes a statement: the cursor is closed whatever the exchange came to, and then the frame is built. -/
def statement (catalog : Catalog) (sql : String) : SourceAction Frame := do
  openAction
  let (schema, rows) ← try exchange catalog sql finally closeAction
  MonadExcept.ofExcept ((Frame.ofRows schema rows).mapError ColumnDefect.fault)

end Cursor

end SplitExport
