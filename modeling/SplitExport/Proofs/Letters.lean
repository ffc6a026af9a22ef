import SplitExport.Text.Blank
import SplitExport.Text.Digit

/-!
# Letters of either case — capitals, and what they are not

* The capital of a character is that of a small letter, and the character itself elsewhere.
* A capital letter is the capital of itself and of its small letter, and of nothing else
  (`toUpper_eq_iff`).
* Letters are no blanks, and a digit is the capital of itself alone.
-/

namespace SplitExport.Text

variable {c : Char}

/-! ## Codes -/

/-- The codes of small letters. -/
theorem isLower_iff : c.isLower = true ↔ 97 ≤ c.toNat ∧ c.toNat ≤ 122 := by
  have hcodes : c.isLower = (decide (97 ≤ c.val) && decide (c.val ≤ 122)) := rfl
  simp [hcodes, UInt32.le_iff_toNat_le, ← Char.toNat_val]

/-- The codes of capitals. -/
theorem isUpper_iff : c.isUpper = true ↔ 65 ≤ c.toNat ∧ c.toNat ≤ 90 := by
  have hcodes : c.isUpper = decide (65 ≤ c.val ∧ c.val ≤ 90) := rfl
  simp [hcodes, UInt32.le_iff_toNat_le, ← Char.toNat_val]

/-- What holds of 26 characters by their codes holds of each of them. -/
theorem of_code {P : Char → Prop} {first : Nat} (h : ∀ k < 26, P (Char.ofNat (first + k)))
    (hrange : first ≤ c.toNat ∧ c.toNat ≤ first + 25) : P c := by
  have hletter := h (c.toNat - first) (by omega)
  rwa [Nat.add_sub_cancel' hrange.1, Char.ofNat_toNat] at hletter

/-- What holds of the small letters by their codes holds of each of them. -/
theorem of_isLower {P : Char → Prop} (h : ∀ k < 26, P (Char.ofNat (97 + k))) (hc : c.isLower = true) : P c :=
  of_code h (isLower_iff.mp hc)

/-- What holds of the capitals by their codes holds of each of them. -/
theorem of_isUpper {P : Char → Prop} (h : ∀ k < 26, P (Char.ofNat (65 + k))) (hc : c.isUpper = true) : P c :=
  of_code h (isUpper_iff.mp hc)

/-! ## Capitals -/

/-- What is no small letter is its own capital. -/
theorem toUpper_of_isLower_eq_false (h : c.isLower = false) : c.toUpper = c := by
  refine dif_neg fun hrange => ?_
  rw [Bool.eq_false_iff] at h
  exact h (Bool.and_eq_true_iff.mpr ⟨decide_eq_true hrange.1, decide_eq_true hrange.2⟩)

/-- A capital letter is the capital of itself and of its small letter. -/
theorem toUpper_eq_iff {capital : Char} (h : capital.isUpper = true) :
    c.toUpper = capital ↔ c = capital ∨ c = capital.toLower := by
  constructor
  · rintro rfl
    cases hlower : c.isLower with
    | false => exact Or.inl (toUpper_of_isLower_eq_false hlower).symm
    | true =>
        exact Or.inr (of_isLower (P := fun c => c = c.toUpper.toLower) (by decide +kernel) hlower)
  · rintro (rfl | rfl)
    · exact of_isUpper (P := fun c => c.toUpper = c) (by decide +kernel) h
    · exact of_isUpper (P := fun c => c.toLower.toUpper = c) (by decide +kernel) h

/-- The capital of a small letter is no digit. -/
theorem isDigit_toUpper_of_isLower (h : c.isLower = true) : isDigit c.toUpper = false :=
  of_isLower (P := fun c => isDigit c.toUpper = false) (by decide +kernel) h

/-- A digit is the capital of itself alone. -/
theorem toUpper_eq_self_of_isDigit (h : isDigit c.toUpper = true) : c.toUpper = c := by
  cases hlower : c.isLower with
  | false => exact toUpper_of_isLower_eq_false hlower
  | true =>
      rw [isDigit_toUpper_of_isLower hlower] at h
      exact nomatch h

/-- Digits are written in one case only. -/
theorem eq_of_map_toUpper {digits cs : List Char} (hdigits : ∀ d ∈ digits, isDigit d = true)
    (h : cs.map Char.toUpper = digits) : cs = digits := by
  subst h
  have hsame : ∀ c ∈ cs, c.toUpper = id c :=
    fun c hc => toUpper_eq_self_of_isDigit (hdigits _ (List.mem_map_of_mem hc))
  rw [List.map_congr_left hsame, List.map_id]

/-! ## Letters and blanks -/

/-- A letter is no blank. -/
theorem isBlank_of_isAlpha (h : c.isAlpha = true) : isBlank c = false := by
  have hcase : c.isUpper = true ∨ c.isLower = true := Bool.or_eq_true_iff.mp h
  rw [isUpper_iff, isLower_iff] at hcase
  simp [isBlank]
  omega

/-- A letter in either case is no blank. -/
theorem isBlank_of_isAlpha_toUpper (h : c.toUpper.isAlpha = true) : isBlank c = false := by
  refine isBlank_of_isAlpha ?_
  cases hlower : c.isLower with
  | false => rwa [toUpper_of_isLower_eq_false hlower] at h
  | true => exact Bool.or_eq_true_iff.mpr (Or.inr hlower)

end SplitExport.Text
