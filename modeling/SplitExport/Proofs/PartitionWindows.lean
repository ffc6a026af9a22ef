import SplitExport.Proofs.DateTexts
import SplitExport.Proofs.NormalForms
import SplitExport.Proofs.OffsetSums

/-!
# Partition windows — a window ends after it starts

The end of a window is the start of its partition moved by a period in its normal form.

* Such a period is read as a sum of its components, which adds something (`sums_of_normalizePeriod`).
* Where the calendar end can be counted in a word, it is the end of the window; it is later than the
  start, as a date and as the text that the condition compares with (`window_ends_after_start`).
* A period whose days do not fit in a word may leave the window empty.
-/

namespace SplitExport

open SplitExport.Calendar SplitExport.Results SplitExport.Sql

namespace Partition

variable {period : Datum} {offset : String} {sums : Offset} {start stop : Date}

/-- What is read of a period in its normal form leads onwards, and adds something. -/
theorem sums_of_normalizePeriod (hperiod : normalizePeriod ({} : Settings).periodUnits period = .ok offset)
    (hsums : readOffset offset = .ok sums) :
    sums.IsOnward ∧ sums.Adds := by
  obtain ⟨⟨first, rest, hrow⟩, hzero⟩ := exists_row_of_normalizePeriod hperiod
  rw [readOffset_of_row hrow] at hsums
  obtain ⟨-, rfl⟩ := readComponents_offsetText_eq_ok_iff.mp hsums
  rw [hrow, digitRuns_offsetText] at hzero
  obtain ⟨c, hmem, hvalue⟩ := exists_value_ne_zero_of_allZero hzero
  exact ⟨isOnward_sumOf _, adds_sumOf hmem hvalue⟩

/-- An end was moved to by what was read of the period. -/
theorem nextStart_eq_ok_iff :
    nextStart start offset = .ok stop ↔
      ∃ sums, readOffset offset = .ok sums ∧ moveBy start sums = .ok stop := by
  rw [nextStart, bind_eq_ok]
  simp only [mapError_eq_ok]

/-- The end of a window can be written. -/
theorem year_le_of_nextStart (h : nextStart start offset = .ok stop) : stop.year ≤ Date.lastYear := by
  obtain ⟨sums, -, hmove⟩ := nextStart_eq_ok_iff.mp h
  exact year_le_of_moveBy hmove

end Partition

open SplitExport.Partition

/-- **A window ends after it starts.** Whatever text a period was given as, the end of the window is the
    date that its components lead to on the calendar, if that can be counted in a word. It is later than
    the start, on the calendar and character by character, and every specification of the period and the
    start compares its partition column with these two dates. -/
theorem window_ends_after_start {period : Datum} {offset : String} {sums : Offset} {start stop : Date}
    (hperiod : normalizePeriod ({} : Settings).periodUnits period = .ok offset)
    (hsums : readOffset offset = .ok sums) (hcounted : IsCounted (calendarEnd start sums))
    (hstop : nextStart start offset = .ok stop) :
    stop = calendarEnd start sums ∧ start.ordinal < stop.ordinal ∧ start.iso < stop.iso ∧
      ∀ (spec : ExportSpec) (column : String), spec.period = offset → spec.partition = some start →
        spec.partitionColumn = some column →
        spec.partitionCondition = .ok (windowClause column start.iso stop.iso) := by
  obtain ⟨honward, hadds⟩ := sums_of_normalizePeriod hperiod hsums
  obtain ⟨sums', hsums', hmove⟩ := nextStart_eq_ok_iff.mp hstop
  obtain rfl : sums' = sums := Except.ok.inj (hsums'.symm.trans hsums)
  obtain ⟨rfl, hyear⟩ := (moveBy_eq_ok_iff honward hcounted).mp hmove
  have hlater : start.ordinal < (calendarEnd start sums').ordinal := ordinal_lt_calendarEnd hadds
  have hstart : start.year ≤ Date.lastYear :=
    Nat.le_trans (Date.year_le_of_ordinal_le (Nat.le_of_lt hlater)) hyear
  refine ⟨rfl, hlater, (Date.iso_lt_iso_iff hstart hyear).mpr hlater, ?_⟩
  intro spec column hperiodOf hpartition hcolumn
  rw [ExportSpec.partitionCondition, hcolumn, hpartition, hperiodOf]
  dsimp only
  rw [hstop]
  rfl

/-- The month from the last of January on ends after it starts. -/
theorem january_window_ends_after_start :
    nextStart ⟨2027, 1, 31, by decide⟩ "1mo" = .ok ⟨2027, 2, 28, by decide⟩ ∧
      "2027-01-31" < "2027-02-28" := by
  have hstop : nextStart ⟨2027, 1, 31, by decide⟩ "1mo" = .ok ⟨2027, 2, 28, by decide⟩ :=
    eq_ok_of_toOption (by decide +kernel)
  have hperiod : normalizePeriod ({} : Settings).periodUnits (.text "P1M") = .ok "1mo" :=
    eq_ok_of_toOption (by decide +kernel)
  have hsums : readOffset "1mo" = .ok { months := 1 } := eq_ok_of_toOption (by decide +kernel)
  have hcounted : IsCounted (calendarEnd ⟨2027, 1, 31, by decide⟩ { months := 1 }) := by decide +kernel
  obtain ⟨-, -, htext, -⟩ := window_ends_after_start hperiod hsums hcounted hstop
  exact ⟨hstop, htext⟩

/-- A number of days that is the least one beyond the words. -/
def overlongDays : String := "9223372036854775808d"

/-- **Days beyond the words may leave a window empty**: the period is taken, and its window ends where it
    starts. -/
theorem overlong_days_leave_window_empty :
    normalizePeriod ({} : Settings).periodUnits (.text overlongDays) = .ok overlongDays ∧
      nextStart ⟨2027, 1, 31, by decide⟩ overlongDays = .ok ⟨2027, 1, 31, by decide⟩ ∧
      ¬ ∀ (period : Datum) (offset : String) (start stop : Date),
        normalizePeriod ({} : Settings).periodUnits period = .ok offset →
        nextStart start offset = .ok stop → start.ordinal < stop.ordinal := by
  have hperiod : normalizePeriod ({} : Settings).periodUnits (.text overlongDays) = .ok overlongDays :=
    eq_ok_of_toOption (by decide +kernel)
  have hstop : nextStart ⟨2027, 1, 31, by decide⟩ overlongDays = .ok ⟨2027, 1, 31, by decide⟩ :=
    eq_ok_of_toOption (by decide +kernel)
  refine ⟨hperiod, hstop, fun hclaim => ?_⟩
  exact Nat.lt_irrefl _ (hclaim _ _ _ _ hperiod hstop)

end SplitExport
