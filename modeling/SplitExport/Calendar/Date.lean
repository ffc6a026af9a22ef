import SplitExport.Text.Digit

/-!
# Civil dates — the Gregorian calendar, extended to every year from 1 on

* A `Date` carries the proof that its day exists; years have no upper bound here.
* `Date.ordinal` counts days from 0001-01-01, which is day 0, and `Date.ofOrdinal` goes back. The year
  of a day count is found from an estimate that is wrong by at most one year
  (`daysBeforeYear_yearOfOrdinal`), the month from the lengths of the months before it.
* `Date.addMonths` moves by months and reduces a day that is too large to the last of its month;
  `Date.addDays` moves by days.
-/

namespace SplitExport.Calendar

open SplitExport.Text

/-! ## Years and months -/

/-- Every fourth year is a leap year, of the centuries every fourth. -/
def isLeap (year : Nat) : Bool :=
  year % 4 == 0 && (year % 100 != 0 || year % 400 == 0)

/-- The length of a month, counted from 1. -/
def daysInMonth (year month : Nat) : Nat :=
  match month with
  | 2 => if isLeap year then 29 else 28
  | 4 | 6 | 9 | 11 => 30
  | _ => 31

/-- Every month has a first day. -/
theorem daysInMonth_pos (year month : Nat) : 1 ≤ daysInMonth year month := by
  unfold daysInMonth
  split
  · cases isLeap year <;> decide
  all_goals decide

/-- The days of the first `n` years: 365 each, and the leap days among them. -/
def daysInYears (n : Nat) : Nat :=
  365 * n + n / 4 + n / 400 - n / 100

/-- The days of the years from 1 up to a year, not counting that year. -/
def daysBeforeYear (year : Nat) : Nat :=
  daysInYears (year - 1)

/-- The days of the months from January up to a month, not counting that month. -/
def daysBeforeMonth (year : Nat) : Nat → Nat
  | 0 => 0
  | 1 => 0
  | month + 2 => daysBeforeMonth year (month + 1) + daysInMonth year (month + 1)

/-! ## Dates -/

/-- A day of the calendar. -/
structure Date where
  year : Nat
  month : Nat
  day : Nat
  exists_day : 1 ≤ year ∧ 1 ≤ month ∧ month ≤ 12 ∧ 1 ≤ day ∧ day ≤ daysInMonth year month := by decide
deriving DecidableEq, Repr

namespace Date

/-- The date with the given parts, if there is one. -/
def ofParts? (year month day : Nat) : Option Date :=
  if h : 1 ≤ year ∧ 1 ≤ month ∧ month ≤ 12 ∧ 1 ≤ day ∧ day ≤ daysInMonth year month then
    some ⟨year, month, day, h⟩
  else none

/-- The last year that a date may have where dates are read and written. -/
def lastYear : Nat := 9999

/-- The text `YYYY-MM-DD`. -/
def iso (d : Date) : String :=
  paddedNat 4 d.year ++ "-" ++ paddedNat 2 d.month ++ "-" ++ paddedNat 2 d.day

/-! ## Counting days -/

/-- The number of days since 0001-01-01. -/
def ordinal (d : Date) : Nat :=
  daysBeforeYear d.year + daysBeforeMonth d.year d.month + (d.day - 1)

/-- The day count of 1970-01-01. -/
def epochOrdinal : Nat := 719162

/-- The number of days since 1970-01-01. -/
def epochDay (d : Date) : Int :=
  (d.ordinal : Int) - epochOrdinal

end Date

/-- The first `n` years have nearly `146097 / 400` days each. -/
theorem daysInYears_bounds (n : Nat) :
    146097 * n ≤ 400 * daysInYears n + 591 ∧ 400 * daysInYears n ≤ 146097 * n + 288 := by
  have hcentury : n / 100 = n / 4 / 25 := by rw [Nat.div_div_eq_div_mul]
  have hcycle : n / 400 = n / 4 / 25 / 4 := by
    rw [Nat.div_div_eq_div_mul, Nat.div_div_eq_div_mul]
  unfold daysInYears
  rw [hcentury, hcycle]
  omega

/-- The number of whole years before a day count: an estimate from the mean length of a year,
    corrected by one. -/
def yearsBefore (n : Nat) : Nat :=
  let guess := 400 * n / 146097
  if n < daysInYears guess then guess - 1
  else if daysInYears (guess + 1) ≤ n then guess + 1
  else guess

/-- The years before a day count end by then, and the next one does not. -/
theorem yearsBefore_spec (n : Nat) :
    daysInYears (yearsBefore n) ≤ n ∧ n < daysInYears (yearsBefore n + 1) := by
  have hguess : 146097 * (400 * n / 146097) ≤ 400 * n := Nat.mul_div_le ..
  have hnext : 400 * n < 146097 * (400 * n / 146097 + 1) := Nat.lt_mul_div_succ _ (by decide)
  have hbelow := daysInYears_bounds (400 * n / 146097 - 1)
  have hat := daysInYears_bounds (400 * n / 146097)
  have hbeyond := daysInYears_bounds (400 * n / 146097 + 1 + 1)
  unfold yearsBefore
  dsimp only
  generalize 400 * n / 146097 = g at *
  split
  · next h =>
    obtain ⟨k, rfl⟩ : ∃ k, g = k + 1 := by
      cases g with
      | zero => exact absurd h (by simp [daysInYears])
      | succ k => exact ⟨k, rfl⟩
    simp only [Nat.add_sub_cancel] at *
    omega
  · split <;> omega

/-- The year of a day count. -/
def yearOfOrdinal (n : Nat) : Nat :=
  yearsBefore n + 1

/-- A day count lies in the year that is found for it. -/
theorem daysBeforeYear_yearOfOrdinal (n : Nat) :
    1 ≤ yearOfOrdinal n ∧ daysBeforeYear (yearOfOrdinal n) ≤ n ∧
      n < daysBeforeYear (yearOfOrdinal n + 1) := by
  obtain ⟨hlow, hhigh⟩ := yearsBefore_spec n
  exact ⟨Nat.succ_pos _, hlow, hhigh⟩

/-- Counting multiples one number further. -/
theorem succ_div_eq (n d : Nat) (h : 0 < d) :
    (n + 1) / d = n / d + if (n + 1) % d = 0 then 1 else 0 := by
  have hquot := Nat.div_add_mod n d
  have hmod := Nat.mod_lt n h
  by_cases hlast : n % d + 1 = d
  · have hsucc : n + 1 = (n / d + 1) * d := by
      rw [Nat.add_mul, Nat.one_mul, Nat.mul_comm]
      omega
    rw [hsucc, Nat.mul_div_cancel _ h, Nat.mul_mod_left, if_pos rfl]
  · have hrest : n + 1 = d * (n / d) + (n % d + 1) := by omega
    have hlt : n % d + 1 < d := by omega
    rw [hrest, Nat.mul_add_div h, Nat.div_eq_of_lt hlt, Nat.mul_add_mod, Nat.mod_eq_of_lt hlt,
      if_neg (Nat.succ_ne_zero _)]

/-- The length of a year. -/
theorem daysInYears_succ (n : Nat) :
    daysInYears (n + 1) = daysInYears n + if isLeap (n + 1) then 366 else 365 := by
  have hcentury : (n + 1) % 100 = 0 → (n + 1) % 4 = 0 := by omega
  have hcycle : (n + 1) % 400 = 0 → (n + 1) % 100 = 0 := by omega
  have hfewer : n / 100 ≤ n / 4 := Nat.div_le_div_left (by decide) (by decide)
  have hleap : isLeap (n + 1) =
      ((n + 1) % 4 == 0 && ((n + 1) % 100 != 0 || (n + 1) % 400 == 0)) := rfl
  unfold daysInYears
  rw [succ_div_eq n 4 (by decide), succ_div_eq n 100 (by decide), succ_div_eq n 400 (by decide)]
  generalize (n + 1) % 4 = r4 at *
  generalize (n + 1) % 100 = r100 at *
  generalize (n + 1) % 400 = r400 at *
  by_cases h4 : r4 = 0
  · by_cases h100 : r100 = 0
    · by_cases h400 : r400 = 0
      · rw [hleap, h4, h100, h400]
        simp
        omega
      · rw [hleap, h4, h100, if_neg h400]
        simp [h400]
        omega
    · have h400 : r400 ≠ 0 := fun h => h100 (hcycle h)
      rw [hleap, h4, if_neg h100, if_neg h400]
      simp [h100]
      omega
  · have h100 : r100 ≠ 0 := fun h => h4 (hcentury h)
    have h400 : r400 ≠ 0 := fun h => h100 (hcycle h)
    rw [hleap, if_neg h4, if_neg h100, if_neg h400]
    simp [h4]
    omega

/-- The year after a year starts when that year's days are over. -/
theorem daysBeforeYear_succ {year : Nat} (h : 1 ≤ year) :
    daysBeforeYear (year + 1) = daysBeforeYear year + if isLeap year then 366 else 365 := by
  obtain ⟨n, rfl⟩ : ∃ n, year = n + 1 := ⟨year - 1, by omega⟩
  exact daysInYears_succ n

/-- The month of a day of the year, counted from 0, searched from month `month` on. -/
def monthFrom (year : Nat) : Nat → Nat → Nat → Nat × Nat
  | 0, month, k => (month, k)
  | fuel + 1, month, k =>
    if k < daysInMonth year month then (month, k)
    else monthFrom year fuel (month + 1) (k - daysInMonth year month)

/-- The day of the year that ends before month `month`. -/
theorem daysBeforeMonth_le_year (year : Nat) :
    daysBeforeMonth year 12 + 31 = if isLeap year then 366 else 365 := by
  cases h : isLeap year <;> simp [daysBeforeMonth, daysInMonth, h]

/-- The search ends in a month that holds the day, if the months from `month` to December do. -/
theorem monthFrom_spec (year : Nat) (fuel month k : Nat) (hm : 1 ≤ month) (hf : month + fuel = 12)
    (hk : daysBeforeMonth year month + k < daysBeforeMonth year 12 + 31) :
    1 ≤ (monthFrom year fuel month k).1 ∧ (monthFrom year fuel month k).1 ≤ 12 ∧
      (monthFrom year fuel month k).2 < daysInMonth year (monthFrom year fuel month k).1 ∧
      daysBeforeMonth year (monthFrom year fuel month k).1 + (monthFrom year fuel month k).2 =
        daysBeforeMonth year month + k := by
  induction fuel generalizing month k with
  | zero =>
    obtain rfl : month = 12 := by omega
    simp only [monthFrom, daysInMonth, Nat.le_refl, true_and, and_true]
    omega
  | succ fuel ih =>
    unfold monthFrom
    split
    · next h => exact ⟨hm, by omega, h, rfl⟩
    · next h =>
      have step : daysBeforeMonth year (month + 1) =
          daysBeforeMonth year month + daysInMonth year month := by
        obtain ⟨j, rfl⟩ : ∃ j, month = j + 1 := ⟨month - 1, by omega⟩
        rfl
      obtain ⟨h1, h2, h3, h4⟩ :=
        ih (month + 1) (k - daysInMonth year month) (by omega) (by omega) (by omega)
      exact ⟨h1, h2, h3, by omega⟩

namespace Date

/-- The month and the day of the month, counted from 0, of a day count. -/
def monthOfOrdinal (n : Nat) : Nat × Nat :=
  monthFrom (yearOfOrdinal n) 11 1 (n - daysBeforeYear (yearOfOrdinal n))

/-- The day of a day count lies in the month that is found for it, and both make up the count. -/
theorem monthOfOrdinal_spec (n : Nat) :
    1 ≤ (monthOfOrdinal n).1 ∧ (monthOfOrdinal n).1 ≤ 12 ∧
      (monthOfOrdinal n).2 < daysInMonth (yearOfOrdinal n) (monthOfOrdinal n).1 ∧
      daysBeforeYear (yearOfOrdinal n) + daysBeforeMonth (yearOfOrdinal n) (monthOfOrdinal n).1 +
        (monthOfOrdinal n).2 = n := by
  obtain ⟨hy, hlow, hhigh⟩ := daysBeforeYear_yearOfOrdinal n
  have hlen := daysBeforeYear_succ hy
  have hyear := daysBeforeMonth_le_year (yearOfOrdinal n)
  have hstart : daysBeforeMonth (yearOfOrdinal n) 1 = 0 := rfl
  obtain ⟨h1, h2, h3, h4⟩ :=
    monthFrom_spec (yearOfOrdinal n) 11 1 (n - daysBeforeYear (yearOfOrdinal n)) (by omega) (by omega)
      (by omega)
  exact ⟨h1, h2, h3, by unfold monthOfOrdinal; omega⟩

/-- The date of a day count. -/
def ofOrdinal (n : Nat) : Date where
  year := yearOfOrdinal n
  month := (monthOfOrdinal n).1
  day := (monthOfOrdinal n).2 + 1
  exists_day := by
    obtain ⟨h1, h2, h3, _⟩ := monthOfOrdinal_spec n
    exact ⟨(daysBeforeYear_yearOfOrdinal n).1, h1, h2, by omega, by omega⟩

/-- The date that is a number of days after 1970-01-01, if it can be written. -/
def ofEpochDay? (days : Int) : Option Date :=
  let count := days + epochOrdinal
  if count < 0 then none
  else
    let date := ofOrdinal count.toNat
    if date.year ≤ lastYear then some date else none

/-- Counting the days up to the date of a day count gives the count. -/
theorem ordinal_ofOrdinal (n : Nat) : (ofOrdinal n).ordinal = n := by
  obtain ⟨_, _, _, h⟩ := monthOfOrdinal_spec n
  unfold ordinal ofOrdinal
  dsimp only
  omega

/-! ## Moving -/

/-- The date moved on by months, its day reduced to the last day of the month it reaches. -/
def addMonths (d : Date) (months : Nat) : Date :=
  let index := d.year * 12 + (d.month - 1) + months
  let year := index / 12
  let month := index % 12 + 1
  { year, month
    day := min d.day (daysInMonth year month)
    exists_day := by
      obtain ⟨h1, h2, h3, h4, _⟩ := d.exists_day
      have hlen : 1 ≤ daysInMonth year month := daysInMonth_pos year month
      exact ⟨by omega, by omega, by omega, by omega, by omega⟩ }

/-- The date moved on by days. -/
def addDays (d : Date) (days : Nat) : Date :=
  ofOrdinal (d.ordinal + days)

end Date

end SplitExport.Calendar
