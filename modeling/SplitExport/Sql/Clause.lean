import SplitExport.Number.Integer
import SplitExport.Split.Range
import SplitExport.Text.Digit

/-!
# Clauses — the conditions and the limit behind a base query

A base query ends in a condition, so that every further condition starts with ` AND `. Columns and
dates are written as they are given.
-/

namespace SplitExport.Sql

open SplitExport.Number SplitExport.Text

/-- At most a number of rows; the number may not have too many digits. -/
def limitClause (limit : Int) : Except OversizeInteger String :=
  if isWritable limit then .ok (" LIMIT " ++ intText limit) else .error {}

/-- A window of a column's values, without its end. -/
def windowClause (column start stop : String) : String :=
  " AND " ++ column ++ " >= '" ++ start ++ "' AND " ++ column ++ " < '" ++ stop ++ "'"

/-- The rows whose value of a column lies in a range. -/
def rangeClause (column : String) (r : SplitRange) : String :=
  " AND " ++ column ++ " >= " ++ intText r.lower ++
    " AND " ++ column ++ (if r.upperInclusive then " <= " else " < ") ++ intText r.upper

end SplitExport.Sql
