import Mathlib.Algebra.Group.Nat.Defs
import Mathlib.Data.List.Induction
import Mathlib.Data.List.TakeWhile
import SplitExport.Number.Integer

/-!
# Digits — what rows of digits write

* A digit stands in one of the rows of ten behind a zero, so that a property of single digits is checked
  row by row (`forall_digit`): digits are no blanks, no letters and no signs.
* A row of digits alone is read as the integer of its value, unless it is too long
  (`readInteger_of_digits`).
* A natural number is written in digits, which have it as their value (`digitsValue_toDigits`), and a value
  is written in no more digits than it was read from (`length_toDigits_digitsValue`).
* What is nearer to zero than an integer that can be written can be written too
  (`isWritable_of_natAbs_le`); the power of ten at the limit cannot be.
-/

namespace SplitExport

namespace Text

/-! ## Single digits -/

/-- What holds of the ten characters behind every zero holds of all digits. -/
theorem forall_digit {P : Char → Prop} (h : ∀ z ∈ zeros, ∀ k < 10, P (Char.ofNat (z + k))) {c : Char}
    (hc : isDigit c = true) : P c := by
  rw [isDigit, digitValue?, Option.isSome_map, List.find?_isSome] at hc
  obtain ⟨z, hz, hrow⟩ := hc
  rw [Bool.and_eq_true, decide_eq_true_eq, decide_eq_true_eq] at hrow
  have hchar : Char.ofNat (z + (c.toNat - z)) = c := by
    rw [Nat.add_sub_cancel' hrow.1, Char.ofNat_toNat]
  rw [← hchar]
  exact h z hz _ (by omega)

/-- Digits are no blanks. -/
theorem isBlank_of_isDigit {c : Char} (h : isDigit c = true) : isBlank c = false :=
  forall_digit (P := fun c => isBlank c = false) (by decide +kernel) h

/-- Digits are no letters. -/
theorem isAsciiLetter_of_isDigit {c : Char} (h : isDigit c = true) : isAsciiLetter c = false :=
  forall_digit (P := fun c => isAsciiLetter c = false) (by decide +kernel) h

/-- The digits of ASCII are digits. -/
theorem isDigit_of_isAsciiDigit {c : Char} (h : isAsciiDigit c = true) : isDigit c = true := by
  rw [isAsciiDigit, Bool.and_eq_true, decide_eq_true_eq, decide_eq_true_eq] at h
  have hrow : (0x30 ≤ c.toNat && c.toNat < 0x30 + 10) = true := by
    have hlow : 48 ≤ c.toNat := h.1
    have hhigh : c.toNat ≤ 57 := h.2
    simp only [Bool.and_eq_true, decide_eq_true_eq]
    omega
  rw [isDigit, digitValue?, Option.isSome_map, List.find?_isSome]
  exact ⟨0x30, List.mem_cons_self, hrow⟩

/-- A natural number is written in digits, and there are some. -/
theorem toDigits_digits (n : Nat) :
    Nat.toDigits 10 n ≠ [] ∧ ∀ c ∈ Nat.toDigits 10 n, isDigit c = true := by
  refine ⟨Nat.toDigits_ne_nil, fun c hc => isDigit_of_isAsciiDigit ?_⟩
  exact Nat.isDigit_of_mem_toDigits (by decide) (by decide) hc

/-! ## Values -/

/-- A digit behind others counts once, and what stands before it ten times. -/
theorem digitsValue_concat (cs : List Char) (c : Char) :
    digitsValue (cs ++ [c]) = digitsValue cs * 10 + (digitValue? c).getD 0 := by
  rw [digitsValue, List.foldl_append]
  rfl

/-- The characters of the single digits have their values. -/
theorem digitValue?_digitChar : ∀ d < 10, digitValue? d.digitChar = some d := by
  decide

/-- A digit counts less than ten. -/
theorem digitValue?_lt (c : Char) : (digitValue? c).getD 0 < 10 := by
  rw [digitValue?]
  cases hfound : zeros.find? fun z => z ≤ c.toNat && c.toNat < z + 10 with
  | none => exact Nat.succ_pos _
  | some z =>
      have hrow := List.find?_some hfound
      rw [Bool.and_eq_true, decide_eq_true_eq, decide_eq_true_eq] at hrow
      show c.toNat - z < 10
      omega

/-- Digits count less than the power of ten of their number. -/
theorem digitsValue_lt (cs : List Char) : digitsValue cs < 10 ^ cs.length := by
  induction cs using List.reverseRecOn with
  | nil => exact Nat.succ_pos _
  | append_singleton cs c ih =>
      have hlast := digitValue?_lt c
      rw [digitsValue_concat, List.length_append, List.length_singleton, Nat.pow_succ]
      omega

/-- The digits that a number is written in have it as their value. -/
theorem digitsValue_toDigits (n : Nat) : digitsValue (Nat.toDigits 10 n) = n := by
  induction n using Nat.strong_induction_on with
  | _ n ih =>
      by_cases hsmall : n < 10
      · have hsingle : digitsValue [n.digitChar] = 0 * 10 + (digitValue? n.digitChar).getD 0 := rfl
        rw [Nat.toDigits_of_lt_base hsmall, hsingle, digitValue?_digitChar n hsmall]
        simp
      · have hlast := digitValue?_digitChar (n % 10) (Nat.mod_lt _ (by decide))
        rw [Nat.toDigits_of_base_le (by decide) (Nat.not_lt.mp hsmall), digitsValue_concat,
          ih (n / 10) (by omega), hlast]
        exact Nat.div_add_mod' n 10

/-- Zeros in front do not count. -/
theorem digitsValue_zeros (k : Nat) (cs : List Char) :
    digitsValue (List.replicate k '0' ++ cs) = digitsValue cs := by
  induction k with
  | zero => rfl
  | succ k ih =>
      rw [← ih]
      rfl

/-- The digits that a number is padded to have it as their value, and are those of ASCII. -/
theorem paddedNat_digits (width n : Nat) :
    digitsValue (paddedNat width n).toList = n ∧
      ∀ c ∈ (paddedNat width n).toList, isAsciiDigit c = true := by
  rw [paddedNat, String.toList_ofList]
  refine ⟨(digitsValue_zeros _ _).trans (digitsValue_toDigits n), fun c hc => ?_⟩
  rcases List.mem_append.mp hc with hzero | hdigit
  · rw [List.eq_of_mem_replicate hzero]
    rfl
  · exact Nat.isDigit_of_mem_toDigits (by decide) (by decide) hdigit

/-- A value is written in no more digits than it was read from. -/
theorem length_toDigits_digitsValue {cs : List Char} (hne : cs ≠ []) :
    (Nat.toDigits 10 (digitsValue cs)).length ≤ cs.length := by
  have hpos : 0 < cs.length := List.length_pos_iff.mpr hne
  exact (Nat.length_toDigits_le_iff (by decide) hpos).mpr (digitsValue_lt cs)

end Text

/-! ## Rows of digits -/

namespace Number

open SplitExport.Text

/-- Digits alone are well grouped, if there are any. -/
theorem groupsDigits_of_digits {cs : List Char} (h : ∀ c ∈ cs, isDigit c = true) (afterDigit : Bool) :
    groupsDigits afterDigit cs = (afterDigit || !cs.isEmpty) := by
  induction cs generalizing afterDigit with
  | nil => rw [groupsDigits, List.isEmpty_nil, Bool.not_true, Bool.or_false]
  | cons c cs ih =>
      have hc : c ≠ '_' := by
        rintro rfl
        exact absurd (h _ List.mem_cons_self) (by decide)
      rw [groupsDigits, if_neg hc, ih fun x hx => h x (List.mem_cons_of_mem _ hx)]
      simp

/-- A row of digits has neither margins nor a sign in front. -/
theorem takeSign_of_digits {c : Char} {cs : List Char} (hc : isDigit c = true) :
    takeSign ((c :: cs).dropWhile isMargin) = (false, c :: cs) := by
  have hmargin : isMargin c = false := by
    rw [isMargin, isBlank_of_isDigit hc]
    rfl
  have hminus : c ≠ '-' := by
    rintro rfl
    exact absurd hc (by decide)
  have hplus : c ≠ '+' := by
    rintro rfl
    exact absurd hc (by decide)
  rw [List.dropWhile_cons_of_neg (by simp [hmargin])]
  rw [takeSign]
  · intro rest heq
    exact hminus (List.cons.inj heq).1
  · intro rest heq
    exact hplus (List.cons.inj heq).1

/-- **Digits alone are read as the integer of their value**, unless there are too many of them. -/
theorem readInteger_of_digits {cs : List Char} (hne : cs ≠ []) (h : ∀ c ∈ cs, isDigit c = true) :
    readInteger (String.ofList cs) =
      if digitLimit < cs.length then .error (.tooLong cs.length) else .ok (digitsValue cs : Int) := by
  cases cs with
  | nil => exact absurd rfl hne
  | cons c cs =>
      have hc : isDigit c = true := h c List.mem_cons_self
      have hall : ∀ x ∈ c :: cs, (isDigit x || x == '_') = true := by
        intro x hx
        rw [h x hx]
        rfl
      have hrun : (c :: cs).takeWhile (fun x => isDigit x || x == '_') = c :: cs :=
        List.takeWhile_eq_self_iff.mpr hall
      have htail : (c :: cs).dropWhile (fun x => isDigit x || x == '_') = [] :=
        List.dropWhile_eq_nil_iff.mpr hall
      have hdigits : (c :: cs).filter isDigit = c :: cs := List.filter_eq_self.mpr h
      rw [readInteger, readIntegerShown, String.toList_ofList, takeSign_of_digits hc]
      dsimp only
      rw [hrun, htail, hdigits, groupsDigits_of_digits h]
      rfl

/-! ## Integers that can be written -/

/-- A natural number can be written below the power of ten at the limit. -/
theorem isWritable_natCast {n : Nat} : isWritable n = true ↔ n < Nat.pow 10 digitLimit := by
  rw [isWritable, Int.natAbs_natCast, decide_eq_true_eq]

/-- What is no further from zero than an integer that can be written can be written. -/
theorem isWritable_of_natAbs_le {i j : Int} (hle : i.natAbs ≤ j.natAbs) (hj : isWritable j = true) :
    isWritable i = true := by
  rw [isWritable, decide_eq_true_eq] at hj ⊢
  exact Nat.lt_of_le_of_lt hle hj

/-- An integer of little more than 128 bits can be written. -/
theorem isWritable_of_le_two_pow {i : Int} (h : i.natAbs ≤ 2 ^ 130) : isWritable i = true := by
  have hlargest : isWritable (2 ^ 130) = true := by decide +kernel
  exact isWritable_of_natAbs_le (by omega) hlargest

/-- The power at the limit is more than 1. -/
theorem one_lt_pow_digitLimit : 1 < Nat.pow 10 digitLimit := by
  rw [Nat.pow_eq]
  exact Nat.one_lt_pow (by decide) (by decide)

/-- The power at the limit has a digit more than can be written. -/
theorem isWritable_pow_digitLimit : isWritable (Nat.pow 10 digitLimit : Nat) = false :=
  Bool.eq_false_iff.mpr fun h => Nat.lt_irrefl _ (isWritable_natCast.mp h)

end Number

end SplitExport
