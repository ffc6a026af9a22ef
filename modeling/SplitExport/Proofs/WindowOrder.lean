import SplitExport.Proofs.PeriodSums

/-!
# The order of windows — a later start and a longer period end a window later

* On the calendar, moving on keeps the order of dates, so that of two windows the one with the earlier
  start and the smaller sums does not end after the other (`exists_nextStart_le`).
* Days and weeks shift every start by one and the same number of microseconds, which is counted in words
  (`exists_shift`). No two dates are so far apart that a word is wrapped for one of them only, so that ends
  that are dates are ordered as the starts are (`countMovedByDays_lt`), however long the period is.
-/

namespace SplitExport.Partition

open SplitExport.Calendar SplitExport.Results

variable {offset : Offset}

/-! ## Moving by days and weeks -/

/-- Wrapping on the way changes no word. -/
theorem wrap_wrap_add (i j : Int) : wrap 64 (wrap 64 i + j) = wrap 64 (i + j) :=
  Int.bmod_add_bmod

/-- The microseconds that an amount of days moves by, if it is positive. -/
def shiftOf (backward : Bool) (amount daysEach : Int) : Int :=
  if 0 < amount then directed backward (amount * daysEach * microsecondsPerDay) else 0

/-- An amount of days shifts what is counted on from there. -/
theorem wrap_moveByDays_add (backward : Bool) (amount daysEach microseconds more : Int) :
    wrap 64 (moveByDays backward amount daysEach microseconds + more) =
      wrap 64 (microseconds + (shiftOf backward amount daysEach + more)) := by
  rw [moveByDays, shiftOf]
  by_cases hpos : 0 < amount
  · rw [if_pos hpos, if_pos hpos, wrap_wrap_add, Int.add_assoc]
  · rw [if_neg hpos, if_neg hpos, Int.zero_add]

/-- Weeks and days shift every day by the same number of microseconds. -/
theorem exists_shift (offset : Offset) :
    ∃ shift : Int, ∀ moved, countMovedByDays offset moved =
      (wrap 64 ((moved - Date.epochOrdinal) * microsecondsPerDay + shift)).fdiv microsecondsPerDay +
        Date.epochOrdinal := by
  refine ⟨shiftOf offset.backward (wordSize offset.weeks) 7 +
    (shiftOf offset.backward (wordSize offset.days) 1 +
      (wrap 64 (directed offset.backward (wordSize offset.nanoseconds))).tdiv 1000), fun moved => ?_⟩
  rw [countMovedByDays, wrap_moveByDays_add, wrap_moveByDays_add]

/-- Wrapping takes off a multiple of the words. -/
theorem exists_wrap_eq (i : Int) : ∃ k : Int, wrap 64 i = i + 18446744073709551616 * k := by
  have hword : Nat.pow 2 64 = 18446744073709551616 := rfl
  rw [wrap, hword, Int.bmod_def]
  split
  · exact ⟨-(i / 18446744073709551616), by omega⟩
  · exact ⟨-(i / 18446744073709551616) - 1, by omega⟩

/-- A count of days is that of a date that can be written. -/
def IsDateCount (count : Int) : Prop :=
  0 ≤ count ∧ count < daysInYears Date.lastYear

/-- **Days and weeks keep the order of days**, wherever they lead, so far as there are dates. -/
theorem countMovedByDays_lt {first second : Int} (hfirst : IsDateCount first) (hsecond : IsDateCount second)
    (hstop : IsDateCount (countMovedByDays offset first))
    (hstop' : IsDateCount (countMovedByDays offset second)) (hlt : first < second) :
    countMovedByDays offset first < countMovedByDays offset second := by
  obtain ⟨shift, hshift⟩ := exists_shift offset
  obtain ⟨k, hk⟩ := exists_wrap_eq ((first - Date.epochOrdinal) * microsecondsPerDay + shift)
  obtain ⟨l, hl⟩ := exists_wrap_eq ((second - Date.epochOrdinal) * microsecondsPerDay + shift)
  have hday : (0 : Int) ≤ microsecondsPerDay := by decide
  rw [hshift, hk, Int.fdiv_eq_ediv_of_nonneg _ hday] at hstop ⊢
  rw [hshift, hl, Int.fdiv_eq_ediv_of_nonneg _ hday] at hstop' ⊢
  rw [IsDateCount, daysInYears_lastYear] at *
  rw [Date.epochOrdinal, microsecondsPerDay] at *
  -- both words are as far from each other as two dates at most, so that they lost the same multiple
  have hsame : k = l := by omega
  omega

/-! ## Windows of days and weeks -/

/-- A date that can be written has such a count. -/
theorem isDateCount_ordinal {d : Date} (h : d.year ≤ Date.lastYear) : IsDateCount d.ordinal :=
  ⟨Int.natCast_nonneg _, Int.ofNat_lt.mpr (d.ordinal_lt_daysInYears h)⟩

/-- A component without months counts days or weeks. -/
theorem monthSum_eq_zero {components : List Component}
    (h : ∀ c ∈ components, c.unit = .day ∨ c.unit = .week) : monthSum components = 0 := by
  induction components with
  | nil => rfl
  | cons c components ih =>
      have hrest := ih fun d hd => h d (List.mem_cons_of_mem _ hd)
      have hfirst : c.unit.months = 0 := by
        rcases h c List.mem_cons_self with hday | hweek
        · rw [hday]
          rfl
        · rw [hweek]
          rfl
      show c.unit.months * c.value + monthSum components = 0
      rw [hfirst, hrest, Nat.zero_mul]

/-- A move without months goes by the count of days. -/
theorem ordinal_of_moveBy {start stop : Date} (hmonths : offset.months = 0)
    (h : moveBy start offset = .ok stop) :
    (stop.ordinal : Int) = countMovedByDays offset start.ordinal := by
  have hsize : wordSize 0 = 0 := by decide
  rw [moveBy_eq, hmonths, hsize, if_neg (by decide)] at h
  obtain ⟨moved, hmoved, hcount⟩ := bind_eq_ok.mp h
  obtain rfl := Except.ok.inj hmoved
  exact (Date.ofCount_eq_ok (mapError_eq_ok.mp hcount)).1

/-- Windows of days and weeks end in the order that they start in. -/
theorem nextStart_lt {period : String} {components : List Component} {first second stop stop' : Date}
    (h : Spells period components) (hunits : ∀ c ∈ components, c.unit = .day ∨ c.unit = .week)
    (hlt : first.ordinal < second.ordinal) (hyear : second.year ≤ Date.lastYear)
    (hstop : nextStart first period = .ok stop) (hstop' : nextStart second period = .ok stop') :
    stop.ordinal < stop'.ordinal := by
  have hmonths : (sumOf components).months = 0 := by
    rw [(sumOf_counts components).1]
    exact monthSum_eq_zero hunits
  rw [nextStart_of_plain h.row h.plain] at hstop hstop'
  have hcount := ordinal_of_moveBy hmonths hstop
  have hcount' := ordinal_of_moveBy hmonths hstop'
  have hfirst : first.year ≤ Date.lastYear := Nat.le_trans (Date.year_le_of_ordinal_le hlt.le) hyear
  have hordered := countMovedByDays_lt (isDateCount_ordinal hfirst) (isDateCount_ordinal hyear)
    (hcount ▸ isDateCount_ordinal (year_le_of_moveBy hstop))
    (hcount' ▸ isDateCount_ordinal (year_le_of_moveBy hstop')) (Int.ofNat_lt.mpr hlt)
  rw [← hcount, ← hcount'] at hordered
  exact Int.ofNat_lt.mp hordered

/-! ## Windows on the calendar -/

/-- From a start that is not later, by a period with no more months and no more days, a window ends no
    later, if the later end can be written. -/
theorem exists_nextStart_le {earlier later : String} {fewer more : List Component} {first second : Date}
    (hearlier : Spells earlier fewer) (hlater : Spells later more) (hmonths : monthSum fewer ≤ monthSum more)
    (hdays : daySum fewer ≤ daySum more) (hstarts : first.ordinal ≤ second.ordinal)
    (hyear : (second.advance (monthSum more) (daySum more)).year ≤ Date.lastYear) :
    ∃ stop stop', nextStart first earlier = .ok stop ∧ nextStart second later = .ok stop' ∧
      stop.ordinal ≤ stop'.ordinal := by
  have hends := Date.ordinal_advance_le hstarts hmonths hdays
  have hyearEarlier := Nat.le_trans (Date.year_le_of_ordinal_le hends) hyear
  exact ⟨_, _, nextStart_of_spells hearlier hyearEarlier, nextStart_of_spells hlater hyear, hends⟩

/-! ## Main result -/

/-- **Windows end in the order of their starts and their periods.** From a start that is not later, a
    period with no more months and no more days leads to an end that is not later: both windows have an
    end if the later one is a date that can be written. For one period of days and weeks, different
    starts lead to different ends, in their order. -/
theorem windows_end_in_order {earlier later : String} {fewer more : List Component}
    (hearlier : Spells earlier fewer) (hlater : Spells later more) :
    (monthSum fewer ≤ monthSum more → daySum fewer ≤ daySum more →
      ∀ first second : Date, first.ordinal ≤ second.ordinal →
        (second.advance (monthSum more) (daySum more)).year ≤ Date.lastYear →
        ∃ stop stop', nextStart first earlier = .ok stop ∧ nextStart second later = .ok stop' ∧
          stop.ordinal ≤ stop'.ordinal) ∧
      ((∀ c ∈ fewer, c.unit = .day ∨ c.unit = .week) →
        ∀ first second stop stop' : Date, first.ordinal < second.ordinal → second.year ≤ Date.lastYear →
          nextStart first earlier = .ok stop → nextStart second earlier = .ok stop' →
          stop.ordinal < stop'.ordinal) := by
  constructor
  · intro hmonths hdays first second hstarts hyear
    exact exists_nextStart_le hearlier hlater hmonths hdays hstarts hyear
  · intro hunits first second stop stop' hlt hyear hstop hstop'
    exact nextStart_lt hearlier hunits hlt hyear hstop hstop'

/-- From the last days of January, a day leads to a later day from the later start, and no further than a
    day and a month. -/
theorem january_windows_end_in_order :
    nextStart ⟨2027, 1, 30, by decide⟩ "1d" = .ok ⟨2027, 1, 31, by decide⟩ ∧
      nextStart ⟨2027, 1, 31, by decide⟩ "1d" = .ok ⟨2027, 2, 1, by decide⟩ ∧
      (⟨2027, 1, 31, by decide⟩ : Date).ordinal < (⟨2027, 2, 1, by decide⟩ : Date).ordinal ∧
      ∃ stop stop', nextStart ⟨2027, 1, 30, by decide⟩ "1d" = .ok stop ∧
        nextStart ⟨2027, 1, 31, by decide⟩ "1d1mo" = .ok stop' ∧ stop.ordinal ≤ stop'.ordinal := by
  have hday : Spells "1d" [oneDay] := ⟨by decide +kernel, by decide +kernel⟩
  have hboth : Spells "1d1mo" [oneDay, oneMonth] := ⟨by decide +kernel, by decide +kernel⟩
  have hstop : nextStart ⟨2027, 1, 30, by decide⟩ "1d" = .ok ⟨2027, 1, 31, by decide⟩ :=
    eq_ok_of_toOption (by decide +kernel)
  have hstop' : nextStart ⟨2027, 1, 31, by decide⟩ "1d" = .ok ⟨2027, 2, 1, by decide⟩ :=
    eq_ok_of_toOption (by decide +kernel)
  obtain ⟨hordered, hstrict⟩ := windows_end_in_order hday hboth
  refine ⟨hstop, hstop', hstrict (by decide +kernel) _ _ _ _ (by decide +kernel) (by decide) hstop hstop', ?_⟩
  exact hordered (by decide) (by decide) _ _ (by decide +kernel) (by decide +kernel)

end SplitExport.Partition
