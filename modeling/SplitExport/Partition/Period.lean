import SplitExport.Datum
import SplitExport.Pattern.Matching
import SplitExport.Pattern.Reading

/-!
# Partition periods — how long a partition is

A period is written as an offset, amounts each followed by a unit (`1y2mo`), or as an ISO 8601 period
of years, months, weeks and days (`P1Y2M`).

* `offsetPattern` is the pattern of offsets over a list of units, each a pattern of its own; digits of
  any script make an amount.
* `readIso?` reads the ISO form in capitals or small letters, and `offsetOfIso` writes it as an offset.
* `normalizePeriod` brings either form to an offset, which must add something.
-/

namespace SplitExport.Partition

open SplitExport.Number SplitExport.Text

/-! ## Causes -/

/-- Why a value is no period. -/
inductive PeriodError where
  /-- It has neither form. -/
  | invalid (source : Datum)
  /-- All its amounts are zero. -/
  | notPositive (offset : String)
  /-- One of its amounts is too long to be read. -/
  | unreadable (cause : IntegerError)
  /-- The units are no pattern. -/
  | units (cause : PatternError)
  /-- One of the units is no text. -/
  | unitNotText (index : Nat) (typeName : String)
  /-- There are no units at all. -/
  | unitsMissing
deriving Repr

/-- The cause in words. -/
def PeriodError.message : PeriodError → String
  | .invalid source => ifWritten source.isWritten ("Invalid partition period: " ++ source.quoted)
  | .notPositive offset => "Partition period must be positive: " ++ quoted offset
  | .unreadable cause => cause.message
  | .units cause => cause.message
  | .unitNotText index typeName =>
    "sequence item " ++ natText index ++ ": expected str instance, " ++ typeName ++ " found"
  | .unitsMissing => "can only join an iterable"

/-- The name of the class of errors that a cause belongs to. -/
def PeriodError.kind : PeriodError → String
  | .units cause => cause.kind
  | .unitNotText .. | .unitsMissing => "TypeError"
  | _ => "ValueError"

/-! ## Offsets -/

/-- The texts of units, of which the first has the given index. -/
def unitTextsFrom (index : Nat) : List Datum → Except PeriodError (List String)
  | [] => .ok []
  | .text unit :: rest => do return unit :: (← unitTextsFrom (index + 1) rest)
  | other :: _ => .error (.unitNotText index other.typeName)

/-- The texts of units; the characters of a text and the names of a record are units, too. -/
def unitTexts : Datum → Except PeriodError (List String)
  | .list units => unitTextsFrom 0 units
  | .text s => .ok (s.toList.map fun c => String.ofList [c])
  | .record fields => .ok (fields.map (·.1))
  | _ => .error .unitsMissing

/-- The pattern of offsets: one or more amounts, each with one of the units behind it. -/
def offsetPattern (units : Datum) : Except PeriodError Pattern := do
  let texts ← unitTexts units
  (readPattern ("^(?:\\d+(?:" ++ "|".intercalate texts ++ "))+$")).mapError .units

/-- The longest runs of digits in a text. -/
def digitRuns (cs : List Char) : List (List Char) :=
  (cs.splitBy fun a b => isDigit a == isDigit b).filter fun run => run.any isDigit

/-- Whether all amounts are zero; the first that is not decides. -/
def allZero : List (List Char) → Except IntegerError Bool
  | [] => .ok true
  | run :: rest => do
    let amount ← readInteger (String.ofList run)
    if amount = 0 then allZero rest else .ok false

/-! ## ISO periods -/

/-- The components of an ISO period in their order: the letter behind the amount and the unit of an
    offset that it stands for. -/
def isoComponents : List (Char × String) :=
  [('Y', "y"), ('M', "mo"), ('W', "w"), ('D', "d")]

/-- Takes an amount with the letter `letter` behind it off the front of a text. -/
def takeComponent? (letter : Char) (cs : List Char) : Option (List Char × List Char) :=
  match cs.takeWhile isDigit, cs.dropWhile isDigit with
  | amount@(_ :: _), c :: rest => if c.toUpper = letter then some (amount, rest) else none
  | _, _ => none

/-- Reads components in the given order, each at most once, up to the end of the text: the amounts with
    their units. -/
def readComponents? : List (Char × String) → List Char → Option (List (List Char × String))
  | [], [] => some []
  | [], _ :: _ => none
  | (letter, unit) :: more, cs =>
    match takeComponent? letter cs with
    | some (amount, rest) => (readComponents? more rest).map ((amount, unit) :: ·)
    | none => readComponents? more cs

/-- Reads an ISO period with at least one component. -/
def readIso? : List Char → Option (List (List Char × String))
  | c :: cs =>
    if c.toUpper = 'P' then (readComponents? isoComponents cs).filter (!·.isEmpty) else none
  | [] => none

/-- The offset of an ISO period, its amounts without leading zeros. -/
def offsetOfIso (components : List (List Char × String)) : Except IntegerError String := do
  let parts ← components.mapM fun (amount, unit) => do
    return intText (← readInteger (String.ofList amount)) ++ unit
  return String.join parts

/-! ## Normal form -/

/-- The offset that a period stands for, over units that are patterns. -/
def normalizePeriod (units : Datum) (period : Datum) : Except PeriodError String := do
  let .text source := period | .error (.invalid period)
  if source.isEmpty then .error (.invalid period)
  let body := trim source.toList
  let offset ← match readIso? body with
    | some components => (offsetOfIso components).mapError .unreadable
    | none => pure (String.ofList body)
  let pattern ← offsetPattern units
  if !pattern.fitsFront offset.toList then .error (.invalid (.text offset))
  else if ← (allZero (digitRuns offset.toList)).mapError .unreadable then .error (.notPositive offset)
  else return offset

end SplitExport.Partition
