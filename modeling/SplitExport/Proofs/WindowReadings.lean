import SplitExport.Proofs.StartDates

/-!
# Window readings — a condition picks the same days from dates as from texts

The condition of a partition compares a column with two quoted dates. A database reads it in one of two ways.

* On a column of dates it reads the literals as dates and compares on the calendar (`DateWithin`).
* On a column of texts it compares character by character (`TextWithin`).

Both readings are of the condition alone, and both find its two dates again, since no date is written with a
quote. What is left is that dates are written in the order of the calendar, in small years as in large ones.
-/

namespace SplitExport

open SplitExport.Calendar SplitExport.Partition SplitExport.Results SplitExport.Sql

/-! ## Readings -/

/-- A date is in the window that a condition describes for a column of dates. -/
def DateWithin (column condition : String) (x : Date) : Prop :=
  ∃ first last start stop, condition = windowClause column first last ∧
    startDate (.text first) = .ok start ∧ startDate (.text last) = .ok stop ∧
    start.ordinal ≤ x.ordinal ∧ x.ordinal < stop.ordinal

/-- A text is in the window that a condition describes for a column of texts. -/
def TextWithin (column condition value : String) : Prop :=
  ∃ first last, condition = windowClause column first last ∧ first ≤ value ∧ value < last

section Dates

variable {column : String} {start stop : Date}

/-- On a column of dates a window is the days from its start to the day before its end. -/
theorem dateWithin_windowClause_iff (hstart : start.year ≤ Date.lastYear) (hstop : stop.year ≤ Date.lastYear)
    (x : Date) : DateWithin column (windowClause column start.iso stop.iso) x ↔
      start.ordinal ≤ x.ordinal ∧ x.ordinal < stop.ordinal := by
  constructor
  · rintro ⟨first, last, first', last', hclause, hfirst, hlast, hfrom, hto⟩
    -- the literals are the texts of the two dates, which are read as these dates
    obtain ⟨rfl, rfl⟩ := windowClause_inj (quote_not_mem_iso start) (quote_not_mem_iso stop) hclause.symm
    obtain rfl := Except.ok.inj ((startDate_iso hstart).symm.trans hfirst)
    obtain rfl := Except.ok.inj ((startDate_iso hstop).symm.trans hlast)
    exact ⟨hfrom, hto⟩
  · rintro ⟨hfrom, hto⟩
    exact ⟨_, _, start, stop, rfl, startDate_iso hstart, startDate_iso hstop, hfrom, hto⟩

/-- On a column of texts a window is the texts from that of its start to that of its end. -/
theorem textWithin_windowClause_iff (start stop : Date) (value : String) :
    TextWithin column (windowClause column start.iso stop.iso) value ↔
      start.iso ≤ value ∧ value < stop.iso := by
  constructor
  · rintro ⟨first, last, hclause, hfrom, hto⟩
    obtain ⟨rfl, rfl⟩ := windowClause_inj (quote_not_mem_iso start) (quote_not_mem_iso stop) hclause.symm
    exact ⟨hfrom, hto⟩
  · rintro ⟨hfrom, hto⟩
    exact ⟨_, _, rfl, hfrom, hto⟩

/-- A day is between two others on the calendar if its text is between theirs. -/
theorem between_iff_iso_between {x : Date} (hstart : start.year ≤ Date.lastYear)
    (hstop : stop.year ≤ Date.lastYear) (hx : x.year ≤ Date.lastYear) :
    (start.ordinal ≤ x.ordinal ∧ x.ordinal < stop.ordinal) ↔ (start.iso ≤ x.iso ∧ x.iso < stop.iso) := by
  rw [Date.iso_le_iso_iff hstart hx, Date.iso_lt_iso_iff hx hstop]

end Dates

/-! ## Main result -/

/-- **Comparing with a window compares dates.** The condition of a specification with a partition column and a
    start of the years 1 to 9999 names this start and the end of its window. A date of these years is from the
    one to before the other on the calendar if and only if its text is character by character; so the condition
    picks it from a column of dates if and only if it picks its text from a column of texts. -/
theorem window_picks_dates_as_texts {spec : ExportSpec} {column condition : String} {start : Date}
    (hcolumn : spec.partitionColumn = some column) (hstart : spec.partition = some start)
    (hyear : start.year ≤ Date.lastYear) (hcondition : spec.partitionCondition = .ok condition) :
    ∃ stop, nextStart start spec.period = .ok stop ∧ condition = windowClause column start.iso stop.iso ∧
      ∀ x : Date, x.year ≤ Date.lastYear →
        ((start.ordinal ≤ x.ordinal ∧ x.ordinal < stop.ordinal) ↔ (start.iso ≤ x.iso ∧ x.iso < stop.iso)) ∧
        (DateWithin column condition x ↔ start.ordinal ≤ x.ordinal ∧ x.ordinal < stop.ordinal) ∧
        (DateWithin column condition x ↔ TextWithin column condition x.iso) := by
  obtain ⟨stop, hstop, rfl⟩ := ExportSpec.partitionCondition_eq_ok hcolumn hstart hcondition
  have hstopYear : stop.year ≤ Date.lastYear := year_le_of_nextStart hstop
  refine ⟨stop, hstop, rfl, fun x hx => ?_⟩
  have hbetween := between_iff_iso_between hyear hstopYear hx
  have hdates : DateWithin column (windowClause column start.iso stop.iso) x ↔ _ :=
    dateWithin_windowClause_iff hyear hstopYear x
  have htexts : TextWithin column (windowClause column start.iso stop.iso) x.iso ↔ _ :=
    textWithin_windowClause_iff start stop x.iso
  exact ⟨hbetween, hdates, hdates.trans (hbetween.trans htexts.symm)⟩

/-- An export of the last day of the year 999. -/
def lastDayExport : ExportSpec where
  table := some "annals"
  base := ⟨"SELECT * FROM annals WHERE 1=1"⟩
  partitionColumn := some "written"
  partition := some ⟨999, 12, 31, by decide⟩
  period := "1d"

/-- The last day of the year 999 is in its window and the day after it is not, as dates and as texts: the year
    is written with four digits before it has them. -/
theorem last_day_is_picked_alone :
    lastDayExport.partitionCondition = .ok " AND written >= '0999-12-31' AND written < '1000-01-01'" ∧
      TextWithin "written" " AND written >= '0999-12-31' AND written < '1000-01-01'" "0999-12-31" ∧
      ¬ TextWithin "written" " AND written >= '0999-12-31' AND written < '1000-01-01'" "1000-01-01" := by
  have hcondition : lastDayExport.partitionCondition =
      .ok " AND written >= '0999-12-31' AND written < '1000-01-01'" := eq_ok_of_toOption (by decide +kernel)
  have hstop : nextStart ⟨999, 12, 31, by decide⟩ "1d" = .ok ⟨1000, 1, 1, by decide⟩ :=
    eq_ok_of_toOption (by decide +kernel)
  obtain ⟨stop, hstop', -, hpicks⟩ := window_picks_dates_as_texts rfl rfl (by decide) hcondition
  obtain rfl := Except.ok.inj (hstop.symm.trans hstop')
  obtain ⟨-, hlast, hlastText⟩ := hpicks ⟨999, 12, 31, by decide⟩ (by decide)
  obtain ⟨-, hnext, hnextText⟩ := hpicks ⟨1000, 1, 1, by decide⟩ (by decide)
  refine ⟨hcondition, hlastText.mp (hlast.mpr (by decide +kernel)), fun hwithin => ?_⟩
  exact absurd (hnext.mp (hnextText.mpr hwithin)).2 (by decide +kernel)

end SplitExport
