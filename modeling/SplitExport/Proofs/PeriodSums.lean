import Mathlib.Algebra.Ring.Nat
import SplitExport.Proofs.AcceptedPeriods

/-!
# Period sums — a window ends at the calendar sum of its period

Some components of a period count months and the others count days.

* `monthSum` and `daySum` add up what the components count, whatever their order, and `Spells` ties a
  period to its components.
* A date moved on by both sums is where the window ends, if it can be written
  (`nextStart_of_spells`): the components are accumulated before any of them moves the date.
* So periods with equal sums have the same windows (`nextStart_congr`), and what they fail with is the
  same as well, as long as the end can be counted in a word.
-/

namespace SplitExport.Partition

open SplitExport.Calendar SplitExport.Results

variable {start : Date} {components : List Component} {offset : String}

/-! ## Sums -/

namespace PeriodUnit

/-- The months in one of a unit. -/
def months : PeriodUnit → Nat
  | .month => 1
  | .quarter => 3
  | .year => 12
  | .day | .week => 0

/-- The days in one of a unit, beside its months. -/
def days : PeriodUnit → Nat
  | .day => 1
  | .week => 7
  | .month | .quarter | .year => 0

end PeriodUnit

/-- The months of components together. -/
def monthSum (components : List Component) : Nat :=
  (components.map fun c => c.unit.months * c.value).sum

/-- The days of components together, beside their months. -/
def daySum (components : List Component) : Nat :=
  (components.map fun c => c.unit.days * c.value).sum

/-- A component makes the months and the days that its amount has of them. -/
theorem Component.offset_counts (c : Component) :
    c.offset.months = c.unit.months * c.value ∧
      7 * c.offset.weeks + c.offset.days = c.unit.days * c.value := by
  rw [Component.offset]
  cases c.unit <;> simp [PeriodUnit.offset, PeriodUnit.months, PeriodUnit.days]

/-- What is read of components counts as many months and days as they do together. -/
theorem sumOf_counts (components : List Component) :
    (sumOf components).months = monthSum components ∧
      7 * (sumOf components).weeks + (sumOf components).days = daySum components := by
  induction components with
  | nil => exact ⟨rfl, rfl⟩
  | cons c components ih =>
      obtain ⟨hmonths, hdays⟩ := c.offset_counts
      obtain ⟨hmonthsRest, hdaysRest⟩ := ih
      constructor
      · show c.offset.months + (sumOf components).months = c.unit.months * c.value + monthSum components
        rw [hmonths, hmonthsRest]
      · show 7 * (c.offset.weeks + (sumOf components).weeks) + (c.offset.days + (sumOf components).days) =
          c.unit.days * c.value + daySum components
        rw [← hdays, ← hdaysRest]
        omega

/-- On the calendar, the sum of components leads as far as their months and their days. -/
theorem calendarEnd_sumOf (start : Date) (components : List Component) :
    calendarEnd start (sumOf components) = start.advance (monthSum components) (daySum components) := by
  obtain ⟨hmonths, hdays⟩ := sumOf_counts components
  rw [calendarEnd, hmonths, hdays]

/-! ## Periods and their components -/

/-- A period spells components: it writes them one behind the other, in digits of ASCII. -/
structure Spells (offset : String) (components : List Component) : Prop where
  row : offset.toList = offsetText components
  plain : ∀ c ∈ components, c.IsPlain

/-- Every normal form in digits of ASCII spells some components. -/
theorem exists_spells_of_normalizePeriod {period : Datum}
    (hperiod : normalizePeriod ({} : Settings).periodUnits period = .ok offset)
    (hplain : HasPlainDigits offset.toList) : ∃ components, components ≠ [] ∧ Spells offset components := by
  obtain ⟨⟨first, rest, hrow⟩, -⟩ := exists_row_of_normalizePeriod hperiod
  rw [hrow] at hplain
  exact ⟨first :: rest, List.cons_ne_nil _ _, hrow, forall_isPlain_iff.mpr hplain⟩

/-- The calendar reads the components that a period spells as their sum. -/
theorem Spells.readOffset_eq (h : Spells offset components) : readOffset offset = .ok (sumOf components) := by
  rw [readOffset_of_row h.row]
  exact readComponents_offsetText_eq_ok_iff.mpr ⟨h.plain, rfl⟩

/-! ## Ends of windows -/

/-- A date that can be written can be counted. -/
theorem isCounted_of_year_le {d : Date} (h : d.year ≤ Date.lastYear) : IsCounted d := by
  have hbefore : d.ordinal < daysInYears Date.lastYear := d.ordinal_lt_daysInYears h
  rw [daysInYears_lastYear] at hbefore
  rw [IsCounted, Date.epochDay, Date.epochOrdinal, microsecondsPerDay]
  omega

/-- Offsets that lead onwards by equal months and equal days lead to the same end, or fail alike. -/
theorem moveBy_congr {a b : Offset} (ha : a.IsOnward) (hb : b.IsOnward) (hmonths : a.months = b.months)
    (hdays : 7 * a.weeks + a.days = 7 * b.weeks + b.days) (hcounted : IsCounted (calendarEnd start a)) :
    moveBy start a = moveBy start b := by
  have hend : calendarEnd start a = calendarEnd start b := by rw [calendarEnd, calendarEnd, hmonths, hdays]
  have hsize : wordSize a.months = a.months := wordSize_word (sums_lt_of_isCounted hcounted).1
  have hcount : countMovedByDays a (start.addMonths a.months).ordinal = (calendarEnd start a).ordinal :=
    countMovedByDays_onward ha hcounted
  rw [hend] at hcounted hcount
  rw [moveBy_eq, moveBy_eq, ha.forward, hb.forward, ← hmonths, hsize, directed, if_neg Bool.false_ne_true]
  -- the months lead to the same day, and weeks and days lead on from there
  refine bind_congr_ok fun moved hmoved => ?_
  obtain ⟨rfl, -⟩ := moved_eq_ok_iff.mp hmoved
  rw [hcount, hmonths, countMovedByDays_onward hb hcounted]

/-- **A window ends at the calendar sum of its period**, if that can be written as a date. -/
theorem nextStart_of_spells (h : Spells offset components)
    (hyear : (start.advance (monthSum components) (daySum components)).year ≤ Date.lastYear) :
    nextStart start offset = .ok (start.advance (monthSum components) (daySum components)) := by
  rw [← calendarEnd_sumOf] at hyear ⊢
  rw [nextStart_of_plain h.row h.plain]
  exact (moveBy_eq_ok_iff (isOnward_sumOf components) (isCounted_of_year_le hyear)).mpr ⟨rfl, hyear⟩

/-- Periods with equal sums have the same windows, and fail alike. -/
theorem nextStart_congr {other : String} {others : List Component} (h : Spells offset components)
    (hother : Spells other others) (hmonths : monthSum others = monthSum components)
    (hdays : daySum others = daySum components)
    (hcounted : IsCounted (start.advance (monthSum components) (daySum components))) :
    nextStart start other = nextStart start offset := by
  obtain ⟨hmonthsRead, hdaysRead⟩ := sumOf_counts components
  obtain ⟨hmonthsOther, hdaysOther⟩ := sumOf_counts others
  rw [← calendarEnd_sumOf] at hcounted
  rw [nextStart_of_plain h.row h.plain, nextStart_of_plain hother.row hother.plain]
  refine (moveBy_congr (isOnward_sumOf _) (isOnward_sumOf _) ?_ ?_ hcounted).symm
  · rw [hmonthsRead, hmonthsOther, hmonths]
  · rw [hdaysRead, hdaysOther, hdays]

/-! ## Main result -/

/-- **Only the sums of a period decide where its windows end.** A normal form in digits of ASCII spells
    some components. Whatever their number and their order, the window ends at its start moved by all
    their months, with a day that is too large reduced to the last of its month, and then by all their
    days, if this is a date that can be written. Another period with the same sums gives the same window,
    however it is spelled. -/
theorem window_end_is_calendar_sum {period : Datum} {offset : String}
    (hperiod : normalizePeriod ({} : Settings).periodUnits period = .ok offset)
    (hplain : HasPlainDigits offset.toList) :
    (∃ components, components ≠ [] ∧ Spells offset components) ∧
      ∀ components, Spells offset components →
        (∀ start : Date, (start.advance (monthSum components) (daySum components)).year ≤ Date.lastYear →
          nextStart start offset = .ok (start.advance (monthSum components) (daySum components))) ∧
        ∀ (other : String) (others : List Component), Spells other others →
          monthSum others = monthSum components → daySum others = daySum components →
          ∀ start : Date, IsCounted (start.advance (monthSum components) (daySum components)) →
            nextStart start other = nextStart start offset := by
  refine ⟨exists_spells_of_normalizePeriod hperiod hplain, fun components hspells => ⟨?_, ?_⟩⟩
  · intro start hyear
    exact nextStart_of_spells hspells hyear
  · intro other others hother hmonths hdays start hcounted
    exact nextStart_congr hspells hother hmonths hdays hcounted

/-- A day, as a component. -/
def oneDay : Component := ⟨['1'], .day, by decide, List.all_eq_true.mp (by decide)⟩

/-- A month, as a component. -/
def oneMonth : Component := ⟨['1'], .month, by decide, List.all_eq_true.mp (by decide)⟩

/-- A day and a month end on the first of March, whichever is written first: the month leads to the last of
    February, and the day on from there. -/
theorem day_and_month_end_in_march :
    nextStart ⟨2027, 1, 30, by decide⟩ "1d1mo" = .ok ⟨2027, 3, 1, by decide⟩ ∧
      nextStart ⟨2027, 1, 30, by decide⟩ "1mo1d" = .ok ⟨2027, 3, 1, by decide⟩ := by
  have hperiod : normalizePeriod ({} : Settings).periodUnits (.text "1d1mo") = .ok "1d1mo" :=
    eq_ok_of_toOption (by decide +kernel)
  have hplain : HasPlainDigits "1d1mo".toList := by decide +kernel
  have hspells : Spells "1d1mo" [oneDay, oneMonth] := ⟨by decide +kernel, by decide +kernel⟩
  have hreordered : Spells "1mo1d" [oneMonth, oneDay] := ⟨by decide +kernel, by decide +kernel⟩
  obtain ⟨-, hwindows⟩ := window_end_is_calendar_sum hperiod hplain
  obtain ⟨hend, hsame⟩ := hwindows [oneDay, oneMonth] hspells
  have hstop : nextStart ⟨2027, 1, 30, by decide⟩ "1d1mo" = .ok ⟨2027, 3, 1, by decide⟩ :=
    (hend ⟨2027, 1, 30, by decide⟩ (by decide +kernel)).trans (congrArg Except.ok (by decide +kernel))
  refine ⟨hstop, ?_⟩
  rw [hsame "1mo1d" [oneMonth, oneDay] hreordered rfl rfl _ (by decide +kernel)]
  exact hstop

end SplitExport.Partition
