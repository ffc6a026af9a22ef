import SplitExport.Number.Integer
import SplitExport.Split.Range
import SplitExport.Text.Digit

/-!
# Chunking — as many ranges as may be read at a time

A chunking divides the values from a least to a greatest one into at most `parallelism` ranges.

* `Chunking.width` is the span divided by the parallelism, rounded up, and at least 1.
* `Chunking.rangesOf` cuts the span into ranges of any width and refuses more ranges than the
  parallelism, and a width that is too long to be told; `Chunking.ranges` uses the chunking's own
  width. A refusal tells the parallelism and the span, unless these are too long themselves.
-/

namespace SplitExport

open SplitExport.Number SplitExport.Text

/-- A span of values and the number of ranges that it may be divided into. -/
structure Chunking where
  min : Int
  max : Int
  parallelism : Int
  parallelism_pos : 0 < parallelism
deriving DecidableEq, Repr

/-! ## Causes -/

/-- Why a span is not divided. -/
inductive ChunkingError where
  /-- The number of ranges is not positive. -/
  | parallelism (given : Int)
  /-- The width leads to more ranges than there may be. -/
  | tooMany (count : Nat) (c : Chunking)
  /-- The width, an end of a range, or a number in a refusal has too many digits. -/
  | oversize (cause : OversizeInteger)
deriving DecidableEq, Repr

namespace ChunkingError

/-- The cause in words. -/
def message : ChunkingError → String
  | .parallelism given =>
    ifWritten (isWritable given) ("Parallelism must be a positive number, got " ++ intText given)
  | .tooMany count c =>
    "Generated " ++ natText count ++ " ranges for parallelism " ++ intText c.parallelism ++
      " (min=" ++ intText c.min ++ ", max=" ++ intText c.max ++ ")"
  | .oversize cause => cause.message

/-- The name of the class of errors that a cause belongs to. -/
def kind : ChunkingError → String
  | .parallelism _ | .oversize _ => "ValueError"
  | .tooMany .. => "RangeInvariantError"

end ChunkingError

namespace Chunking

/-- The chunking of the span from `min` to `max`. -/
def ofBounds (min max parallelism : Int) : Except ChunkingError Chunking :=
  if h : 0 < parallelism then .ok ⟨min, max, parallelism, h⟩ else .error (.parallelism parallelism)

/-- The width of the ranges: the span over the parallelism, rounded up, and 1 for a span that is not
    positive. -/
def width (c : Chunking) : Int :=
  let rounded := -(-(c.max - c.min)).fdiv c.parallelism
  if 0 < rounded then rounded else 1

/-- Whether the parallelism and the ends of a span are written when they are told. -/
def isWritten (c : Chunking) : Bool :=
  isWritable c.parallelism && isWritable c.min && isWritable c.max

/-- Why ranges that are too many are refused: for their number, if all that goes with it is written. -/
def refusal (c : Chunking) (count : Nat) : ChunkingError :=
  if c.isWritten then .tooMany count c else .oversize {}

/-- The ranges of a width. -/
def rangesOf (c : Chunking) (width : Int) : Except ChunkingError (List SplitRange) :=
  let count := SplitRange.cuts width c.min c.max + 1
  if c.parallelism < count then .error (c.refusal count)
  else if !isWritable width then .error (.oversize {})
  else .ok (SplitRange.cut width c.min c.max)

/-- The ranges of a chunking. -/
def ranges (c : Chunking) : Except ChunkingError (List SplitRange) :=
  c.rangesOf c.width

end Chunking

end SplitExport
