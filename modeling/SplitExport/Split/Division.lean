import SplitExport.Log.Event
import SplitExport.Split.Chunking

/-!
# Divisions — a span that is divided, and what is told of it

The ranges of a width are laid side by side, and are counted when all of them are there. Too many of
them are refused, and nothing is told of them; else their number and the width are told of, which fails
if the width is too long.
-/

namespace SplitExport

open SplitExport.Log SplitExport.Number

/-- A division that was made: its ranges or why there are none, and what happened. -/
structure DivisionRun where
  result : Except ChunkingError (List SplitRange)
  events : List Event

namespace Chunking

/-- Divides a span into ranges of a width. -/
def divide (c : Chunking) (width : Int) : DivisionRun :=
  let ranges := SplitRange.cut width c.min c.max
  if c.parallelism < ranges.length then { result := .error (c.refusal ranges.length), events := [] }
  else if !isWritable width then { result := .error (.oversize {}), events := [] }
  else { result := .ok ranges, events := [.rangesCalculated ranges.length width] }

end Chunking

end SplitExport
