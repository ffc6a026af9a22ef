import SplitExport.Log.Event
import SplitExport.Probe.Outcome
import SplitExport.Settings
import SplitExport.Source.Executor
import SplitExport.Sql.BaseQuery

/-!
# Probing — one statement that finds the bounds of a split column

* `Probe.query` asks for the least and the greatest value of a column.
* `Probe.judge` reads the frame that answers it: it must have a row, and the column of least values
  must hold integers. If either value is null there is nothing to read, and the bounds are 0 and 0.
* `Probe.run` sends the statement, and tells what happened.
-/

namespace SplitExport.Probe

open SplitExport.Log SplitExport.Sql

/-- The statement that asks for the bounds of a column, over the rows that meet a condition. -/
def query (settings : Settings) (base : BaseQuery) (column condition : String) : String :=
  (base.boundsQuery settings.boundsAlias settings.minColumn settings.maxColumn column condition).text

/-- What came of reading an answer, and what there is to tell of it. -/
structure Judgement where
  outcome : Except ProbeFault Outcome
  events : List Event := []

/-- The column of a frame with a name. -/
def columnOf (frame : Frame) (name : String) : Except ProbeFault Column :=
  (frame.column? name).elim (.error (.missingColumn name)) .ok

/-- The first value of a column. -/
def firstValue (c : Column) : Datum :=
  c.values.headD .null

/-- Takes two values for bounds; the greatest one may be of another type than the least. Both are told as
    they are before they are taken. -/
def takeBounds (seconds : Number.Binary64) (column : String) (least greatest : Datum) : Judgement :=
  if least.isNull || greatest.isNull then
    { outcome := .ok (.bounds ⟨0, 0⟩)
      events := [.nullBounds (some column), .boundsProbed (.int 0) (.int 0) seconds] }
  else if !(least.isWritten && greatest.isWritten) then { outcome := .error (.oversize {}) }
  else
    let bounds := do return Bounds.mk (← least.toInteger) (← greatest.toInteger)
    { outcome := (bounds.map .bounds).mapError .conversion
      events := [.boundsProbed least greatest seconds] }

/-- Reads the frame that answers a probe of a column. -/
def judge (settings : Settings) (seconds : Number.Binary64) (column : String) (frame : Frame) :
    Judgement :=
  if frame.height = 0 then { outcome := .ok (.failure .noRows) }
  else
    match columnOf frame settings.minColumn with
    | .error fault => { outcome := .error fault }
    | .ok least =>
      if !least.kind.isIntegral then { outcome := .ok (.failure (.notIntegral column least.kind)) }
      else
        match frame.unreadable? 0, columnOf frame settings.maxColumn with
        | some fault, _ => { outcome := .error (.escaped fault) }
        | none, .error fault => { outcome := .error fault }
        | none, .ok greatest => takeBounds seconds column (firstValue least) (firstValue greatest)

/-- A probe that was made: its outcome, what happened, and the executor afterwards. -/
structure ProbeRun where
  outcome : Except ProbeFault Outcome
  events : List Event
  executor : Executor

/-- Probes for the bounds of a column. -/
def run (settings : Settings) (executor : Executor) (base : BaseQuery) (condition column : String) :
    ProbeRun :=
  let sql := query settings base column condition
  let asked := Event.note .debug ("Probing bounds: " ++ sql)
  match executor.execute sql with
  | (.error fault, executor) =>
    { outcome :=
        if fault.isFatal then .error (.escaped fault)
        else .ok (.failure (.executionFailed column fault))
      events := [asked], executor }
  | (.ok frame, executor) =>
    let judgement := judge settings executor.source.seconds column frame
    { outcome := judgement.outcome, events := asked :: judgement.events, executor }

end SplitExport.Probe
