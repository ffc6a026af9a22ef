import Mathlib.Algebra.Group.Int.Defs
import Mathlib.Algebra.Group.Nat.Defs
import SplitExport.Partition.Window
import SplitExport.Proofs.CalendarOrder
import SplitExport.Proofs.Results

/-!
# Window ends — the date that a move by an offset leads to

On the calendar, an offset that leads onwards by whole days leads to `calendarEnd`: by its months first,
and then by its weeks and days.

* Moves are counted in words of 64 bits. A calendar end that can be counted (`IsCounted`) is where the
  move leads, so far as it is a date that can be written (`moveBy_eq_ok_iff`).
* Such an end is later than the start, unless the offset adds nothing (`ordinal_lt_calendarEnd`).
-/

namespace SplitExport.Partition

open SplitExport.Calendar SplitExport.Results

/-! ## Words -/

/-- An integer that fits in a word is not wrapped. -/
theorem wrap_word {i : Int} (hlow : -2 ^ 63 ≤ i) (hhigh : i < 2 ^ 63) : wrap 64 i = i := by
  have hword : Nat.pow 2 64 = 18446744073709551616 := rfl
  rw [wrap, hword, Int.bmod_def]
  omega

/-- A sum that fits in a word is its own size. -/
theorem wordSize_word {n : Nat} (h : n < 2 ^ 63) : wordSize n = n := by
  have hword : wrap 64 (n : Int) = n := wrap_word (by omega) (by omega)
  rw [wordSize, hword, Int.natAbs_natCast, hword]

/-! ## Offsets that lead onwards -/

/-- An offset leads onwards by whole days. -/
structure Offset.IsOnward (offset : Offset) : Prop where
  forward : offset.backward = false
  whole_days : offset.nanoseconds = 0

/-- An offset adds something. -/
def Offset.Adds (offset : Offset) : Prop :=
  offset.months ≠ 0 ∨ offset.weeks ≠ 0 ∨ offset.days ≠ 0

/-- The date that an offset leads to on the calendar. -/
def calendarEnd (start : Date) (offset : Offset) : Date :=
  start.advance offset.months (7 * offset.weeks + offset.days)

/-- A date can be counted: the microseconds from the first of 1970 to it fit in a word. -/
def IsCounted (d : Date) : Prop :=
  d.epochDay * microsecondsPerDay < 2 ^ 63

instance (d : Date) : Decidable (IsCounted d) :=
  inferInstanceAs (Decidable (d.epochDay * microsecondsPerDay < 2 ^ 63))

variable {start stop : Date} {offset : Offset}

/-- **The calendar end is later than the start**, unless the offset adds nothing. -/
theorem ordinal_lt_calendarEnd (h : offset.Adds) : start.ordinal < (calendarEnd start offset).ordinal := by
  refine start.ordinal_lt_advance ?_
  rcases h with hmonths | hdays
  · exact Or.inl hmonths
  · exact Or.inr (by omega)

/-! ## Moving by months -/

/-- The months that a move onwards counts from the first of all. -/
theorem monthIndex_natCast (start : Date) (months : Nat) :
    (start.year : Int) * 12 + (start.month - 1 : Nat) + months =
      (start.year * 12 + (start.month - 1) + months : Nat) := by
  omega

/-- Months lead on to the year that they lead to on the calendar. -/
theorem movedYear_natCast (start : Date) (months : Nat) :
    movedYear start months = (start.addMonths months).year := by
  rw [movedYear, monthIndex_natCast]
  rfl

/-- Months lead on to the month that they lead to on the calendar. -/
theorem movedMonth_natCast (start : Date) (months : Nat) :
    movedMonth start months = (start.addMonths months).month := by
  rw [movedMonth, monthIndex_natCast]
  rfl

/-- Months lead on to the day that they lead to on the calendar. -/
theorem movedDay_natCast (start : Date) (months : Nat) :
    movedDay start months = (start.addMonths months).day := by
  have hpositive : 1 ≤ (start.addMonths months).year := (start.addMonths months).exists_day.1
  rw [movedDay, movedYear_natCast, movedMonth_natCast, daysInMonth_cycleYear hpositive]
  rfl

/-- Months lead where they lead on the calendar, unless that is in a year that is not counted. -/
theorem moveByMonths_natCast (start : Date) (months : Nat) :
    moveByMonths start months =
      if lastCivilYear < (start.addMonths months).year then .error (.beyondCalendar start months)
      else .ok (start.addMonths months).ordinal := by
  have hpositive : 1 ≤ (start.addMonths months).year := (start.addMonths months).exists_day.1
  have hfirst : ¬ ((start.addMonths months).year : Int) < firstCivilYear := by
    rw [firstCivilYear]
    omega
  rw [moveByMonths, movedYear_natCast, movedMonth_natCast, movedDay_natCast, daysBefore_natCast hpositive]
  simp only [hfirst, false_or, Date.ordinal]
  rfl

/-- A number of months, moved by if there are any, leads to its end on the calendar. -/
theorem moved_eq_ok_iff {months : Nat} {moved : Int} :
    (if 0 < (months : Int) then moveByMonths start months else pure (start.ordinal : Int)) =
        (.ok moved : Except WindowError Int) ↔
      moved = (start.addMonths months).ordinal ∧
        (months = 0 ∨ (start.addMonths months).year ≤ lastCivilYear) := by
  cases months with
  | zero =>
      rw [if_neg (by decide), Date.ordinal_addMonths_zero]
      constructor
      · intro h
        exact ⟨(Except.ok.inj h).symm, Or.inl rfl⟩
      · rintro ⟨rfl, -⟩
        rfl
  | succ n =>
      rw [if_pos (by omega), moveByMonths_natCast]
      by_cases hlast : lastCivilYear < (start.addMonths (n + 1)).year
      · rw [if_pos hlast]
        constructor
        · exact fun h => nomatch h
        · rintro ⟨-, hnone | hyear⟩
          · exact absurd hnone (Nat.succ_ne_zero n)
          · exact absurd hlast (Int.not_lt.mpr hyear)
      · rw [if_neg hlast]
        constructor
        · intro h
          exact ⟨(Except.ok.inj h).symm, Or.inr (Int.not_lt.mp hlast)⟩
        · rintro ⟨rfl, -⟩
          rfl

/-! ## Moving by days -/

/-- Days that are counted lead on by their number. -/
theorem moveByDays_onward (amount daysEach : Nat) {day : Int} (hlow : -719162 ≤ day)
    (hhigh : (day + amount * daysEach) * microsecondsPerDay < 2 ^ 63) :
    moveByDays false amount daysEach (day * microsecondsPerDay) =
      (day + amount * daysEach) * microsecondsPerDay := by
  rw [moveByDays, directed, if_neg Bool.false_ne_true, ← Int.add_mul]
  split
  · refine wrap_word ?_ hhigh
    have hnonneg : 0 ≤ (amount : Int) * daysEach :=
      Int.mul_nonneg (Int.natCast_nonneg _) (Int.natCast_nonneg _)
    rw [microsecondsPerDay]
    omega
  · have hnone : (amount : Int) = 0 := by omega
    rw [hnone, Int.zero_mul, Int.add_zero]

/-! ## Moving by an offset -/

/-- An offset whose end can be counted has sums that fit in words. -/
theorem sums_lt_of_isCounted (h : IsCounted (calendarEnd start offset)) :
    offset.months < 2 ^ 63 ∧ offset.weeks < 2 ^ 63 ∧ offset.days < 2 ^ 63 := by
  have hmonths := start.ordinal_add_le_addMonths offset.months
  rw [IsCounted, calendarEnd, Date.epochDay, Date.ordinal_advance, Date.epochOrdinal,
    microsecondsPerDay] at h
  omega

/-- The count of days that weeks and days lead to. -/
def countMovedByDays (offset : Offset) (moved : Int) : Int :=
  let microseconds := (moved - Date.epochOrdinal) * microsecondsPerDay
  let microseconds := moveByDays offset.backward (wordSize offset.weeks) 7 microseconds
  let microseconds := moveByDays offset.backward (wordSize offset.days) 1 microseconds
  let nanoseconds := wrap 64 (directed offset.backward (wordSize offset.nanoseconds))
  (wrap 64 (microseconds + nanoseconds.tdiv 1000)).fdiv microsecondsPerDay + Date.epochOrdinal

/-- A move goes by months first, and then by weeks and days. -/
theorem moveBy_eq (start : Date) (offset : Offset) :
    moveBy start offset =
      (if 0 < wordSize offset.months then
        moveByMonths start (directed offset.backward (wordSize offset.months))
      else pure (start.ordinal : Int)) >>= fun moved =>
        (Date.ofCount (countMovedByDays offset moved)).mapError .day := by
  rw [moveBy]
  split
  · rfl
  · rfl

/-- Wherever a move leads, it is to a date that can be written. -/
theorem year_le_of_moveBy (h : moveBy start offset = .ok stop) : stop.year ≤ Date.lastYear := by
  rw [moveBy_eq] at h
  obtain ⟨moved, -, hcount⟩ := bind_eq_ok.mp h
  exact (Date.ofCount_eq_ok (mapError_eq_ok.mp hcount)).2

/-- Weeks and days that are counted lead on by their number. -/
theorem countMovedByDays_onward (honward : offset.IsOnward)
    (hcounted : IsCounted (calendarEnd start offset)) :
    countMovedByDays offset (start.addMonths offset.months).ordinal = (calendarEnd start offset).ordinal := by
  obtain ⟨-, hweeks, hdays⟩ := sums_lt_of_isCounted hcounted
  -- no word is wrapped on the way, since the end is the latest of the days in between
  rw [IsCounted, Date.epochDay, calendarEnd, Date.ordinal_advance] at hcounted
  rw [countMovedByDays, honward.forward, honward.whole_days, wordSize_word hweeks, wordSize_word hdays,
    calendarEnd, Date.ordinal_advance]
  generalize (start.addMonths offset.months).ordinal = moved at hcounted ⊢
  have hepoch : Date.epochOrdinal = 719162 := rfl
  have hafterWeeks : moveByDays false offset.weeks 7 ((moved - Date.epochOrdinal) * microsecondsPerDay) =
      (moved - Date.epochOrdinal + offset.weeks * 7) * microsecondsPerDay := by
    refine moveByDays_onward offset.weeks 7 (by omega) ?_
    rw [microsecondsPerDay] at hcounted ⊢
    omega
  have hafterDays : moveByDays false offset.days 1
      ((moved - Date.epochOrdinal + offset.weeks * 7) * microsecondsPerDay) =
      (moved - Date.epochOrdinal + offset.weeks * 7 + offset.days * 1) * microsecondsPerDay := by
    refine moveByDays_onward offset.days 1 (by omega) ?_
    rw [microsecondsPerDay] at hcounted ⊢
    omega
  have hrest : (wrap 64 (directed false (wordSize 0))).tdiv 1000 = 0 := by decide
  have hend : (moved : Int) - Date.epochOrdinal + offset.weeks * 7 + offset.days * 1 =
      (moved + (7 * offset.weeks + offset.days) : Nat) - Date.epochOrdinal := by omega
  rw [hrest, hafterWeeks, hafterDays, Int.add_zero, hend, wrap_word ?_ hcounted,
    Int.mul_fdiv_cancel _ (by decide), Int.sub_add_cancel]
  rw [microsecondsPerDay]
  omega

/-- **A move leads to the calendar end**, if that can be counted and written as a date. -/
theorem moveBy_eq_ok_iff (honward : offset.IsOnward) (hcounted : IsCounted (calendarEnd start offset)) :
    moveBy start offset = .ok stop ↔
      stop = calendarEnd start offset ∧ (calendarEnd start offset).year ≤ Date.lastYear := by
  obtain ⟨hmonths, hweeks, hdays⟩ := sums_lt_of_isCounted hcounted
  rw [moveBy_eq, wordSize_word hmonths, honward.forward, directed, if_neg Bool.false_ne_true, bind_eq_ok]
  simp only [moved_eq_ok_iff, mapError_eq_ok]
  constructor
  · rintro ⟨_, ⟨rfl, -⟩, hcount⟩
    rw [countMovedByDays_onward honward hcounted, Date.ofCount_ordinal_eq_ok_iff] at hcount
    exact hcount
  · rintro ⟨rfl, hyear⟩
    -- the months alone lead to no later year than the whole offset
    have hmoved : (start.addMonths offset.months).year ≤ (calendarEnd start offset).year := by
      refine Date.year_le_of_ordinal_le ?_
      rw [calendarEnd, Date.ordinal_advance]
      exact Nat.le_add_right _ _
    refine ⟨_, ⟨rfl, Or.inr ?_⟩, ?_⟩
    · rw [Date.lastYear] at hyear
      rw [lastCivilYear]
      omega
    · rw [countMovedByDays_onward honward hcounted]
      exact Date.ofCount_ordinal_eq_ok_iff.mpr ⟨rfl, hyear⟩

end SplitExport.Partition
