import Mathlib.Algebra.Group.Nat.Defs
import SplitExport.Proofs.CalendarOrder

/-!
# Date texts — dates are written in the order of the calendar

A date is written with the same number of digits for every year that has dates, so that its text comes
before that of a later date, character by character (`Calendar.Date.iso_lt_iso_iff`).
-/

namespace SplitExport

/-! ## Padded numbers -/

namespace Text

/-- Behind fronts of one length, texts are compared where the fronts agree. -/
theorem append_lt_append_iff {xs ys us vs : List Char} (h : xs.length = ys.length) :
    xs ++ us < ys ++ vs ↔ xs < ys ∨ xs = ys ∧ us < vs := by
  induction xs generalizing ys with
  | nil =>
      obtain rfl := List.length_eq_zero_iff.mp h.symm
      simp
  | cons x xs ih =>
      cases ys with
      | nil => exact nomatch h
      | cons y ys =>
          have hrest := ih (Nat.succ.inj h)
          rw [List.cons_append, List.cons_append, List.cons_lt_cons_iff, List.cons_lt_cons_iff, hrest]
          constructor
          · rintro (hfirst | ⟨rfl, hlater | ⟨rfl, hbehind⟩⟩)
            · exact Or.inl (Or.inl hfirst)
            · exact Or.inl (Or.inr ⟨rfl, hlater⟩)
            · exact Or.inr ⟨rfl, hbehind⟩
          · rintro ((hfirst | ⟨rfl, hlater⟩) | ⟨heq, hbehind⟩)
            · exact Or.inl hfirst
            · exact Or.inr ⟨rfl, Or.inl hlater⟩
            · obtain ⟨rfl, rfl⟩ := List.cons.inj heq
              exact Or.inr ⟨rfl, Or.inr ⟨rfl, hbehind⟩⟩

/-- Digits stand in the order of their values. -/
theorem digitChar_lt_iff : ∀ a < 10, ∀ b < 10, a.digitChar < b.digitChar ↔ a < b := by
  decide

/-- The last digit of a padded number is that of the number, and the others write its tenth. -/
theorem toList_paddedNat_succ {width : Nat} (h : 1 ≤ width) (n : Nat) :
    (paddedNat (width + 1) n).toList = (paddedNat width (n / 10)).toList ++ [(n % 10).digitChar] := by
  simp only [paddedNat, String.toList_ofList]
  by_cases hsmall : n < 10
  · -- the tenth of a single digit is written as a zero, which stands for one of those in front
    have htenth : n / 10 = 0 := Nat.div_eq_of_lt hsmall
    have hzero : Nat.toDigits 10 0 = ['0'] := rfl
    have hfill : List.replicate width '0' = List.replicate (width - 1) '0' ++ ['0'] := by
      rw [← List.replicate_succ', Nat.sub_add_cancel h]
    rw [Nat.toDigits_of_lt_base hsmall, htenth, hzero, Nat.mod_eq_of_lt hsmall, List.length_singleton,
      List.length_singleton, Nat.add_sub_cancel, hfill]
  · rw [Nat.toDigits_of_base_le (by decide) (Nat.not_lt.mp hsmall), List.length_append,
      List.length_singleton, Nat.add_sub_add_right, List.append_assoc]

/-- Texts that stand in the order of what they write are as different as that. -/
theorem eq_iff_of_lt_iff {write : Nat → List Char} {bound : Nat}
    (horder : ∀ a < bound, ∀ b < bound, write a < write b ↔ a < b) {m n : Nat} (hm : m < bound)
    (hn : n < bound) : write m = write n ↔ m = n := by
  refine ⟨fun heq => ?_, fun heq => by rw [heq]⟩
  rcases Nat.lt_trichotomy m n with hlt | hsame | hgt
  · have hless := (horder m hm n hn).mpr hlt
    rw [heq] at hless
    exact absurd hless (List.lt_irrefl _)
  · exact hsame
  · have hless := (horder n hn m hm).mpr hgt
    rw [heq] at hless
    exact absurd hless (List.lt_irrefl _)

section Padded

variable {width m n : Nat}

/-- A number that is small enough is padded to the width. -/
theorem length_paddedNat (hwidth : 1 ≤ width) (hn : n < 10 ^ width) :
    (paddedNat width n).toList.length = width := by
  have hdigits : (Nat.toDigits 10 n).length ≤ width :=
    (Nat.length_toDigits_le_iff (by decide) hwidth).mpr hn
  rw [paddedNat, String.toList_ofList, List.length_append, List.length_replicate]
  omega

/-- **Padded numbers stand in the order of the numbers.** -/
theorem paddedNat_lt_iff (hwidth : 1 ≤ width) (hm : m < 10 ^ width) (hn : n < 10 ^ width) :
    (paddedNat width m).toList < (paddedNat width n).toList ↔ m < n := by
  induction width, hwidth using Nat.le_induction generalizing m n with
  | base =>
      have hsingle : ∀ k < 10, (paddedNat 1 k).toList = [k.digitChar] := by
        intro k hk
        rw [paddedNat, String.toList_ofList, Nat.toDigits_of_lt_base hk]
        rfl
      rw [hsingle m hm, hsingle n hn, List.cons_lt_cons_iff]
      have hdigit := digitChar_lt_iff m hm n hn
      simp [hdigit]
  | succ width hwidth ih =>
      -- the tenths of both numbers decide, and the last digits only where these are the same
      have hmTenth : m / 10 < 10 ^ width := by
        rw [Nat.pow_succ] at hm
        omega
      have hnTenth : n / 10 < 10 ^ width := by
        rw [Nat.pow_succ] at hn
        omega
      have hlength : (paddedNat width (m / 10)).toList.length = (paddedNat width (n / 10)).toList.length := by
        rw [length_paddedNat hwidth hmTenth, length_paddedNat hwidth hnTenth]
      have hsame : (paddedNat width (m / 10)).toList = (paddedNat width (n / 10)).toList ↔
          m / 10 = n / 10 :=
        eq_iff_of_lt_iff (fun a ha b hb => ih ha hb) hmTenth hnTenth
      have hdigit := digitChar_lt_iff (m % 10) (Nat.mod_lt _ (by decide)) (n % 10) (Nat.mod_lt _ (by decide))
      rw [toList_paddedNat_succ hwidth, toList_paddedNat_succ hwidth, append_lt_append_iff hlength,
        ih hmTenth hnTenth, hsame, List.cons_lt_cons_iff, hdigit]
      simp only [List.lt_irrefl, and_false, or_false]
      omega

/-- Padded numbers are as different as the numbers. -/
theorem paddedNat_inj (hwidth : 1 ≤ width) (hm : m < 10 ^ width) (hn : n < 10 ^ width) :
    (paddedNat width m).toList = (paddedNat width n).toList ↔ m = n :=
  eq_iff_of_lt_iff (fun _ ha _ hb => paddedNat_lt_iff hwidth ha hb) hm hn

end Padded

end Text

namespace Calendar.Date

open SplitExport.Text

variable {d e : Date}

/-- The text of a date: its parts with dashes between them. -/
theorem toList_iso (d : Date) :
    d.iso.toList = (paddedNat 4 d.year).toList ++
      (['-'] ++ ((paddedNat 2 d.month).toList ++ (['-'] ++ (paddedNat 2 d.day).toList))) := by
  simp [iso, String.toList_append]

/-- The days of a month have two digits. -/
theorem day_lt (d : Date) : d.day < 10 ^ 2 := by
  obtain ⟨-, -, -, -, hday⟩ := d.exists_day
  have hlength : daysInMonth d.year d.month ≤ 31 := by
    simp only [daysInMonth]
    split
    · split <;> decide
    all_goals decide
  omega

/-- **Dates are written in the order of the calendar.** -/
theorem iso_lt_iso_iff (hd : d.year ≤ lastYear) (he : e.year ≤ lastYear) :
    d.iso < e.iso ↔ d.ordinal < e.ordinal := by
  obtain ⟨-, -, hdMonth, -, -⟩ := d.exists_day
  obtain ⟨-, -, heMonth, -, -⟩ := e.exists_day
  have hdYear : d.year < 10 ^ 4 := Nat.lt_succ_of_le hd
  have heYear : e.year < 10 ^ 4 := Nat.lt_succ_of_le he
  have hyears : (paddedNat 4 d.year).toList.length = (paddedNat 4 e.year).toList.length := by
    rw [length_paddedNat (by decide) hdYear, length_paddedNat (by decide) heYear]
  have hmonths : (paddedNat 2 d.month).toList.length = (paddedNat 2 e.month).toList.length := by
    rw [length_paddedNat (by decide) (by omega), length_paddedNat (by decide) (by omega)]
  -- part by part, each as long in the one text as in the other, with the same dashes between them
  rw [String.lt_iff, toList_iso, toList_iso, append_lt_append_iff hyears, append_lt_append_iff rfl,
    append_lt_append_iff hmonths, append_lt_append_iff rfl, paddedNat_lt_iff (by decide) hdYear heYear,
    paddedNat_inj (by decide) hdYear heYear, paddedNat_lt_iff (by decide) (by omega) (by omega),
    paddedNat_inj (by decide) (by omega) (by omega), paddedNat_lt_iff (by decide) d.day_lt e.day_lt,
    ordinal_lt_iff]
  simp only [List.lt_irrefl, false_or, true_and]

/-- A date that is not after another one is written so. -/
theorem iso_le_iso_iff (hd : d.year ≤ lastYear) (he : e.year ≤ lastYear) :
    d.iso ≤ e.iso ↔ d.ordinal ≤ e.ordinal := by
  rw [← String.not_lt, iso_lt_iso_iff he hd, Nat.not_lt]

end Calendar.Date

end SplitExport
