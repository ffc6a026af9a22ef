import Mathlib.Order.Monotone.Basic
import SplitExport.Calendar.Civil

/-!
# The order of the calendar — day counts rise with the months and the days

The months of all years stand in one row, each with a number (`Date.monthIndex`), and a month begins when
the months before it are over (`daysBeforeIndex_succ`).

* A date in a later month has a later day count (`Date.ordinal_lt_of_monthIndex_lt`), so that a day count
  is that of one date only, and moving on by months or by days leads to a later date
  (`Date.ordinal_lt_advance`).
* Moving on keeps the order: from a date that is not later, by no more months and no more days, no later
  date is reached (`Date.ordinal_advance_le`).
* The day counts of dates are the same where all years are counted (`daysBefore_natCast`,
  `Date.ofCount_ordinal_eq_ok_iff`).
-/

namespace SplitExport.Calendar

/-! ## The row of months -/

/-- The days before a month, given by its number in the row. -/
def daysBeforeIndex (index : Nat) : Nat :=
  daysBeforeYear (index / 12) + daysBeforeMonth (index / 12) (index % 12 + 1)

/-- A month begins when the month before it is over. -/
theorem daysBeforeIndex_succ {index : Nat} (h : 12 ≤ index) :
    daysBeforeIndex (index + 1) =
      daysBeforeIndex index + daysInMonth (index / 12) (index % 12 + 1) := by
  by_cases hlast : index % 12 = 11
  · -- behind a December stands the first month of another year
    have hdiv : (index + 1) / 12 = index / 12 + 1 := by omega
    have hmod : (index + 1) % 12 = 0 := by omega
    have hyear := daysBeforeYear_succ (show 1 ≤ index / 12 by omega)
    have hlength := daysBeforeMonth_le_year (index / 12)
    rw [daysBeforeIndex, daysBeforeIndex, hdiv, hmod, hlast, hyear, ← hlength]
    show _ + (daysBeforeMonth (index / 12) 12 + 31) + 0 = _ + daysBeforeMonth (index / 12) 12 + 31
    omega
  · have hdiv : (index + 1) / 12 = index / 12 := by omega
    have hmod : (index + 1) % 12 = index % 12 + 1 := by omega
    rw [daysBeforeIndex, daysBeforeIndex, hdiv, hmod, Nat.add_assoc (daysBeforeYear (index / 12))]
    rfl

/-- A later month begins when an earlier one is over, and every month between them has a day. -/
theorem daysBeforeIndex_add_lt {index : Nat} (h : 12 ≤ index) (n : Nat) :
    daysBeforeIndex index + daysInMonth (index / 12) (index % 12 + 1) + n ≤
      daysBeforeIndex (index + 1 + n) := by
  induction n with
  | zero => exact Nat.le_of_eq (daysBeforeIndex_succ h).symm
  | succ n ih =>
      have hstep := daysBeforeIndex_succ (show 12 ≤ index + 1 + n by omega)
      have hday := daysInMonth_pos ((index + 1 + n) / 12) ((index + 1 + n) % 12 + 1)
      rw [← Nat.add_assoc (index + 1) n 1, hstep]
      omega

namespace Date

/-- The number of the month of a date in the row of months. -/
def monthIndex (d : Date) : Nat :=
  d.year * 12 + (d.month - 1)

variable {d e : Date}

/-- The number of a month tells its year. -/
theorem monthIndex_div (d : Date) : d.monthIndex / 12 = d.year := by
  obtain ⟨-, hfirst, hlast, -, -⟩ := d.exists_day
  rw [monthIndex]
  omega

/-- The number of a month tells the month of its year. -/
theorem monthIndex_mod (d : Date) : d.monthIndex % 12 + 1 = d.month := by
  obtain ⟨-, hfirst, hlast, -, -⟩ := d.exists_day
  rw [monthIndex]
  omega

/-- Every year has all the months before it. -/
theorem le_monthIndex (d : Date) : 12 ≤ d.monthIndex := by
  have hyear := d.exists_day.1
  rw [monthIndex]
  omega

/-- A date counts the days before its month and those of the month. -/
theorem ordinal_eq (d : Date) : d.ordinal = daysBeforeIndex d.monthIndex + (d.day - 1) := by
  rw [daysBeforeIndex, monthIndex_div, monthIndex_mod, ordinal]

/-- The day of a date is one of its month. -/
theorem day_bounds (d : Date) :
    1 ≤ d.day ∧ d.day ≤ daysInMonth (d.monthIndex / 12) (d.monthIndex % 12 + 1) := by
  obtain ⟨-, -, -, hfirst, hlast⟩ := d.exists_day
  rw [monthIndex_div, monthIndex_mod]
  exact ⟨hfirst, hlast⟩

/-- **A date in a later month is later.** -/
theorem ordinal_lt_of_monthIndex_lt (h : d.monthIndex < e.monthIndex) : d.ordinal < e.ordinal := by
  have hbound := d.day_bounds
  have hmonths := daysBeforeIndex_add_lt d.le_monthIndex (e.monthIndex - (d.monthIndex + 1))
  rw [Nat.add_sub_cancel' h] at hmonths
  rw [ordinal_eq, ordinal_eq]
  omega

/-- A date that is not later is in no later month, and in the same month on no later day. -/
theorem monthIndex_le_of_ordinal_le (h : d.ordinal ≤ e.ordinal) :
    d.monthIndex ≤ e.monthIndex ∧ (d.monthIndex = e.monthIndex → d.day ≤ e.day) := by
  have hdDay := d.day_bounds.1
  have heDay := e.day_bounds.1
  constructor
  · by_contra hlater
    have hlt := ordinal_lt_of_monthIndex_lt (Nat.not_le.mp hlater)
    omega
  · intro hsame
    rw [ordinal_eq, ordinal_eq, hsame] at h
    omega

/-- A date that is not later is in no later year. -/
theorem year_le_of_ordinal_le (h : d.ordinal ≤ e.ordinal) : d.year ≤ e.year := by
  rw [← monthIndex_div d, ← monthIndex_div e]
  exact Nat.div_le_div_right (monthIndex_le_of_ordinal_le h).1

/-- **Dates are ordered by year, month and day.** -/
theorem ordinal_lt_iff :
    d.ordinal < e.ordinal ↔
      d.year < e.year ∨ d.year = e.year ∧ (d.month < e.month ∨ d.month = e.month ∧ d.day < e.day) := by
  obtain ⟨-, hdFirst, hdLast, hdDay, -⟩ := d.exists_day
  obtain ⟨-, heFirst, heLast, heDay, -⟩ := e.exists_day
  have hd : d.monthIndex = d.year * 12 + (d.month - 1) := rfl
  have he : e.monthIndex = e.year * 12 + (e.month - 1) := rfl
  -- in one month the days decide, and else the months do
  rcases Nat.lt_trichotomy d.monthIndex e.monthIndex with hlt | heq | hgt
  · have hearlier := ordinal_lt_of_monthIndex_lt hlt
    omega
  · have hsame : daysBeforeIndex d.monthIndex = daysBeforeIndex e.monthIndex := by rw [heq]
    rw [ordinal_eq, ordinal_eq]
    omega
  · have hlater := ordinal_lt_of_monthIndex_lt hgt
    omega

/-- A day count is that of one date only. -/
theorem ordinal_injective : Function.Injective ordinal := by
  intro d e h
  have hforward := ordinal_lt_iff (d := d) (e := e)
  have hbackward := ordinal_lt_iff (d := e) (e := d)
  have hyear : d.year = e.year := by omega
  have hmonth : d.month = e.month := by omega
  have hday : d.day = e.day := by omega
  cases d
  cases e
  cases hyear
  cases hmonth
  cases hday
  rfl

/-- The date of the day count of a date is that date. -/
theorem ofOrdinal_ordinal (d : Date) : ofOrdinal d.ordinal = d :=
  ordinal_injective (ordinal_ofOrdinal d.ordinal)

/-! ## Moving on -/

/-- Moving on by months moves the number of the month. -/
theorem monthIndex_addMonths (d : Date) (months : Nat) :
    (d.addMonths months).monthIndex = d.monthIndex + months := by
  show (d.monthIndex + months) / 12 * 12 + ((d.monthIndex + months) % 12 + 1 - 1) = _
  omega

/-- Moving on by no months leads nowhere. -/
theorem ordinal_addMonths_zero (d : Date) : (d.addMonths 0).ordinal = d.ordinal := by
  have hday : (d.addMonths 0).day = min d.day (daysInMonth (d.monthIndex / 12) (d.monthIndex % 12 + 1)) :=
    rfl
  rw [ordinal_eq, ordinal_eq, monthIndex_addMonths, Nat.add_zero, hday, Nat.min_eq_left d.day_bounds.2]

/-- Moving on by months leads to a later date, and every month is a day at least. -/
theorem ordinal_add_lt_addMonths (d : Date) (n : Nat) :
    d.ordinal + n < (d.addMonths (n + 1)).ordinal := by
  have hbound := d.day_bounds
  have hmonths := daysBeforeIndex_add_lt d.le_monthIndex n
  rw [ordinal_eq, ordinal_eq, monthIndex_addMonths, ← Nat.add_assoc, Nat.add_right_comm _ n 1]
  omega

/-- Moving on by months does not lead back. -/
theorem ordinal_add_le_addMonths (d : Date) (months : Nat) :
    d.ordinal + months ≤ (d.addMonths months).ordinal := by
  cases months with
  | zero => exact Nat.le_of_eq (ordinal_addMonths_zero d).symm
  | succ n => exact ordinal_add_lt_addMonths d n

/-- The date moved on by months and then by days. -/
def advance (d : Date) (months days : Nat) : Date :=
  (d.addMonths months).addDays days

/-- The days that a date is moved on by are counted on. -/
theorem ordinal_advance (d : Date) (months days : Nat) :
    (d.advance months days).ordinal = (d.addMonths months).ordinal + days :=
  ordinal_ofOrdinal _

/-- **Moving on leads to a later date**, unless there is nothing to move on by. -/
theorem ordinal_lt_advance (d : Date) {months days : Nat} (h : months ≠ 0 ∨ days ≠ 0) :
    d.ordinal < (d.advance months days).ordinal := by
  have hmonths := d.ordinal_add_le_addMonths months
  rw [ordinal_advance]
  omega

/-! ## Moving on keeps the order -/

/-- Dates in one month are ordered by their days. -/
theorem ordinal_le_of_day_le (hmonth : d.monthIndex = e.monthIndex) (hday : d.day ≤ e.day) :
    d.ordinal ≤ e.ordinal := by
  rw [ordinal_eq, ordinal_eq, hmonth]
  omega

/-- **Moving on by months keeps the order.** Days that are reduced to the last of a month may fall
    together, but none of them gets in front of another. -/
theorem ordinal_addMonths_le {m n : Nat} (h : d.ordinal ≤ e.ordinal) (hmonths : m ≤ n) :
    (d.addMonths m).ordinal ≤ (e.addMonths n).ordinal := by
  obtain ⟨hindex, hday⟩ := monthIndex_le_of_ordinal_le h
  have hdIndex := d.monthIndex_addMonths m
  have heIndex := e.monthIndex_addMonths n
  by_cases hsame : d.monthIndex + m = e.monthIndex + n
  · -- one month is reached, from one month and by the same number of months
    have hfrom : d.monthIndex = e.monthIndex := by omega
    refine ordinal_le_of_day_le (by omega) ?_
    have hlength : daysInMonth (d.addMonths m).year (d.addMonths m).month =
        daysInMonth (e.addMonths n).year (e.addMonths n).month := by
      rw [← monthIndex_div (d.addMonths m), ← monthIndex_div (e.addMonths n),
        ← monthIndex_mod (d.addMonths m), ← monthIndex_mod (e.addMonths n), hdIndex, heIndex, hsame]
    show min d.day (daysInMonth (d.addMonths m).year (d.addMonths m).month) ≤
      min e.day (daysInMonth (e.addMonths n).year (e.addMonths n).month)
    rw [hlength]
    have hdays := hday hfrom
    omega
  · refine Nat.le_of_lt (ordinal_lt_of_monthIndex_lt ?_)
    omega

/-- **Moving on keeps the order.** -/
theorem ordinal_advance_le {m n k l : Nat} (h : d.ordinal ≤ e.ordinal) (hmonths : m ≤ n) (hdays : k ≤ l) :
    (d.advance m k).ordinal ≤ (e.advance n l).ordinal := by
  rw [ordinal_advance, ordinal_advance]
  exact Nat.add_le_add (ordinal_addMonths_le h hmonths) hdays

end Date

/-! ## Counting over all years -/

/-- The days of years whose number is known up to whole cycles. -/
theorem daysInYears_cycles (k n : Nat) : daysInYears (400 * k + n) = 146097 * k + daysInYears n := by
  have hquarter : (400 * k + n) / 4 = 100 * k + n / 4 := by omega
  have hcentury : (400 * k + n) / 100 = 4 * k + n / 100 := by omega
  have hcycle : (400 * k + n) / 400 = k + n / 400 := by omega
  rw [daysInYears, daysInYears, hquarter, hcentury, hcycle]
  omega

/-- Leap years come again with every cycle. -/
theorem isLeap_cycles (k n : Nat) : isLeap (400 * k + n) = isLeap n := by
  have hquarter : (400 * k + n) % 4 = n % 4 := by omega
  have hcentury : (400 * k + n) % 100 = n % 100 := by omega
  have hcycle : (400 * k + n) % 400 = n % 400 := by omega
  rw [isLeap, isLeap, hquarter, hcentury, hcycle]

/-- Months are as long in every cycle. -/
theorem daysInMonth_cycles (k n month : Nat) : daysInMonth (400 * k + n) month = daysInMonth n month := by
  simp only [daysInMonth, isLeap_cycles]

/-- The months before a month are as long in every cycle. -/
theorem daysBeforeMonth_cycles (k n month : Nat) :
    daysBeforeMonth (400 * k + n) month = daysBeforeMonth n month := by
  induction month using daysBeforeMonth.induct with
  | case1 => rfl
  | case2 => rfl
  | case3 month ih => rw [daysBeforeMonth, daysBeforeMonth, ih, daysInMonth_cycles]

/-- A year is the year of the first cycle that agrees with it, some cycles later. -/
theorem eq_add_cycleYear {year : Nat} (h : 1 ≤ year) :
    year = 400 * ((year - 1) / 400) + cycleYear year ∧
      ((year : Int) - 1).ediv 400 = ((year - 1) / 400 : Nat) := by
  have hbefore : (year : Int) - 1 = (year - 1 : Nat) := by omega
  have hcycle : cycleYear year = (year - 1) % 400 + 1 := by
    rw [cycleYear, hbefore]
    rfl
  refine ⟨by omega, ?_⟩
  rw [hbefore]
  rfl

/-- The months of a year are as long as those of the year of the first cycle. -/
theorem daysInMonth_cycleYear {year : Nat} (h : 1 ≤ year) (month : Nat) :
    daysInMonth (cycleYear year) month = daysInMonth year month := by
  conv => rhs; rw [(eq_add_cycleYear h).1, daysInMonth_cycles]

/-- The days before a month are counted as from the first year. -/
theorem daysBefore_natCast {year : Nat} (h : 1 ≤ year) (month : Nat) :
    daysBefore year month = (daysBeforeYear year + daysBeforeMonth year month : Nat) := by
  obtain ⟨hyear, hcycles⟩ := eq_add_cycleYear h
  have hpositive : 1 ≤ cycleYear year := Nat.succ_pos _
  rw [daysBefore, hcycles, daysInCycle]
  -- whole cycles and the year of the first one, so that the divisions can be taken apart
  generalize (year - 1) / 400 = k at hyear
  generalize cycleYear year = first at hyear hpositive
  obtain rfl := hyear
  have hbefore : 400 * k + first - 1 = 400 * k + (first - 1) := by omega
  rw [daysBeforeYear, daysBeforeYear, hbefore, daysInYears_cycles, daysBeforeMonth_cycles]
  omega

/-- Years end one after the other. -/
theorem daysInYears_strictMono : StrictMono daysInYears := by
  refine strictMono_nat_of_lt_succ fun n => ?_
  rw [daysInYears_succ]
  split <;> omega

/-- The days of the years that dates are written in. -/
theorem daysInYears_lastYear : daysInYears Date.lastYear = 3652059 := by
  decide

/-- The days up to a date are fewer than those of the years up to its own, or to a later one. -/
theorem Date.ordinal_lt_daysInYears {d : Date} {years : Nat} (h : d.year ≤ years) :
    d.ordinal < daysInYears years := by
  have hyear : yearOfOrdinal d.ordinal = d.year := congrArg Date.year (ofOrdinal_ordinal d)
  have hover : d.ordinal < daysBeforeYear (yearOfOrdinal d.ordinal + 1) :=
    (daysBeforeYear_yearOfOrdinal d.ordinal).2.2
  rw [hyear] at hover
  exact Nat.lt_of_lt_of_le hover (daysInYears_strictMono.monotone h)

/-- The year of a day count is the only one that the count lies in. -/
theorem yearOfOrdinal_eq {n years : Nat} (hlow : daysInYears years ≤ n)
    (hhigh : n < daysInYears (years + 1)) : yearOfOrdinal n = years + 1 := by
  obtain ⟨hfound, hnext⟩ := yearsBefore_spec n
  have hle : yearsBefore n < years + 1 := daysInYears_strictMono.lt_iff_lt.mp (by omega)
  have hge : years < yearsBefore n + 1 := daysInYears_strictMono.lt_iff_lt.mp (by omega)
  rw [yearOfOrdinal]
  omega

/-- The year of a day count is found as from the first year. -/
theorem civilYear_natCast (n : Nat) : civilYear n = yearOfOrdinal n := by
  have hrow : civilYear n = ((n / 146097 * 400 + yearOfOrdinal (n % 146097) : Nat) : Int) := rfl
  obtain ⟨hlow, hhigh⟩ := yearsBefore_spec (n % 146097)
  have hsplit := Nat.div_add_mod n 146097
  -- the year found in the first cycle, some cycles later, is the one that the count lies in
  have hbegun : daysInYears (400 * (n / 146097) + yearsBefore (n % 146097)) ≤ n := by
    rw [daysInYears_cycles]
    omega
  have hnotOver : n < daysInYears (400 * (n / 146097) + yearsBefore (n % 146097) + 1) := by
    rw [Nat.add_assoc, daysInYears_cycles]
    omega
  rw [hrow, yearOfOrdinal_eq hbegun hnotOver, yearOfOrdinal]
  omega

/-- The day count of a date gives that date back, unless its year is too late. -/
theorem Date.ofCount_ordinal_eq_ok_iff {d e : Date} :
    Date.ofCount d.ordinal = .ok e ↔ e = d ∧ d.year ≤ Date.lastYear := by
  have hyear : civilYear d.ordinal = d.year := by
    rw [civilYear_natCast]
    exact congrArg (fun date : Date => (date.year : Int)) (ofOrdinal_ordinal d)
  rw [Date.ofCount, hyear, Int.toNat_natCast, ofOrdinal_ordinal]
  by_cases hlast : d.year ≤ Date.lastYear
  · have hcounted : ¬((d.year : Int) < firstCivilYear ∨ lastCivilYear < (d.year : Int)) := by
      rw [Date.lastYear] at hlast
      rw [firstCivilYear, lastCivilYear]
      omega
    rw [if_neg hcounted, if_pos ⟨Int.natCast_nonneg _, Int.ofNat_le.mpr hlast⟩]
    exact ⟨fun h => ⟨(Except.ok.inj h).symm, hlast⟩, fun h => congrArg Except.ok h.1.symm⟩
  · have hlate : ¬(0 ≤ (d.ordinal : Int) ∧ (d.year : Int) ≤ (Date.lastYear : Nat)) :=
      fun h => hlast (Int.ofNat_le.mp h.2)
    rw [if_neg hlate]
    constructor
    · intro h
      split at h <;> exact nomatch h
    · exact fun h => absurd h.2 hlast

/-- A day count that has a date is the count of that date, whose year is not too late. -/
theorem Date.ofCount_eq_ok {count : Int} {d : Date} (h : Date.ofCount count = .ok d) :
    (d.ordinal : Int) = count ∧ d.year ≤ Date.lastYear := by
  have hcount : ∃ n : Nat, count = n := by
    refine ⟨count.toNat, ?_⟩
    rw [Date.ofCount] at h
    split at h
    · exact nomatch h
    · split at h
      · rename_i hdate
        exact (Int.toNat_of_nonneg hdate.1).symm
      · exact nomatch h
  obtain ⟨n, rfl⟩ := hcount
  rw [← ordinal_ofOrdinal n] at h ⊢
  obtain ⟨rfl, hyear⟩ := Date.ofCount_ordinal_eq_ok_iff.mp h
  exact ⟨rfl, hyear⟩

end SplitExport.Calendar
