import SplitExport.Number.Integer
import SplitExport.Split.Chunking
import SplitExport.Sql.BaseQuery
import SplitExport.Sql.Clause

/-!
# Export queries — the texts that an export hands out

An export query is a base query, the clause of a partition, the clause of a range and the clause of a
limit, one after the other; an absent clause is empty. The ends of a range are written in full, so that
they may not have too many digits.
-/

namespace SplitExport.Sql

open SplitExport.Number

/-- The text of an export query. -/
def assemble (base partition range limit : String) : String :=
  base ++ partition ++ range ++ limit

/-- The export query of a range. -/
def queryForRange (column base partition limit : String) (r : SplitRange) : String :=
  assemble base partition (rangeClause column r) limit

/-- One export query for each range. -/
def queriesForRanges (column base partition limit : String) (ranges : List SplitRange) :
    Except OversizeInteger (List String) :=
  if ranges.all fun r => isWritable r.lower && isWritable r.upper then
    .ok (ranges.map (queryForRange column base partition limit))
  else .error {}

/-- The export queries for the ranges of a span. -/
def queriesForBounds (min max parallelism : Int) (column base partition limit : String) :
    Except ChunkingError (List String) := do
  let ranges ← (← Chunking.ofBounds min max parallelism).ranges
  (queriesForRanges column base partition limit ranges).mapError .oversize

end SplitExport.Sql
