import SplitExport.Calendar.IsoText
import SplitExport.Datum
import SplitExport.Text.Blank

/-!
# Partition dates — the first day of a partition

A partition starts at a date. A moment stands for its day, and a text for the day that it writes in
ISO 8601; nothing else is a date.
-/

namespace SplitExport.Partition

open SplitExport.Calendar SplitExport.Text

/-- The value is no date. -/
structure DateError where
  source : Datum
deriving Repr

/-- The cause in words. -/
def DateError.message (e : DateError) : String :=
  Number.ifWritten e.source.isWritten ("Invalid partition date: " ++ e.source.quoted)

/-- The day that a value names. -/
def startDate : Datum → Except DateError Date
  | .date d => .ok d
  | .moment m | .universal m => .ok m.date
  | .text s =>
    match readMoment? (trim s.toList) with
    | some m => .ok m.date
    | none => .error ⟨.text s⟩
  | other => .error ⟨other⟩

end SplitExport.Partition
