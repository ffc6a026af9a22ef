import Mathlib.Data.List.Basic
import SplitExport.Sql.Clause

/-!
# Reading filters — what the text behind a query says about a value

A clause that restricts the split column is read back as the comparison that it writes:

* different integers have different texts, and no such text holds a space;
* so the space behind a bound ends it, whatever the column is called, and `rangeClause` never gives two
  ranges one text;
* `FilterHolds` is the reading, stated on texts alone, and on the clause of a range it is membership.
-/

namespace SplitExport

open SplitExport.Text

/-! ## Texts of integers -/

namespace Text

/-- The characters of a natural number are ASCII digits. -/
theorem isDigit_of_mem_natText {n : Nat} {c : Char} (h : c ∈ (natText n).toList) : c.isDigit = true := by
  rw [natText, String.toList_ofList] at h
  exact Nat.isDigit_of_mem_toDigits (by decide) (by decide) h

/-- Different natural numbers have different texts. -/
theorem natText_injective {m n : Nat} (h : natText m = natText n) : m = n := by
  have hdigits : Nat.toDigits 10 m = Nat.toDigits 10 n := String.ofList_injective h
  calc
    m = Nat.ofDigitChars 10 (Nat.toDigits 10 m) 0 := Nat.ofDigitChars_ten_toDigits.symm
    _ = Nat.ofDigitChars 10 (Nat.toDigits 10 n) 0 := by rw [hdigits]
    _ = n := Nat.ofDigitChars_ten_toDigits

/-- A natural number is not written with a sign. -/
theorem natText_ne_negative (m n : Nat) : natText m ≠ "-" ++ natText n := by
  intro h
  have hmem : '-' ∈ (natText m).toList := by
    rw [h, String.toList_append]
    exact List.mem_append_left _ (by decide)
  exact absurd (isDigit_of_mem_natText hmem) (by decide)

/-- Different integers have different texts. -/
theorem intText_injective {a b : Int} (h : intText a = intText b) : a = b := by
  cases a with
  | ofNat m =>
      cases b with
      | ofNat n => exact congrArg Int.ofNat (natText_injective h)
      | negSucc n => exact absurd h (natText_ne_negative m (n + 1))
  | negSucc m =>
      cases b with
      | ofNat n => exact absurd h.symm (natText_ne_negative n (m + 1))
      | negSucc n =>
          have hsize : natText (m + 1) = natText (n + 1) := (String.append_right_inj _).mp h
          exact congrArg Int.negSucc (Nat.succ.inj (natText_injective hsize))

/-- The text of an integer holds no space. -/
theorem space_not_mem_intText (i : Int) : ' ' ∉ (intText i).toList := by
  intro h
  cases i with
  | ofNat n => exact absurd (isDigit_of_mem_natText h) (by decide)
  | negSucc n =>
      rw [intText, String.toList_append] at h
      rcases List.mem_append.mp h with hsign | hdigit
      · exact absurd hsign (by decide)
      · exact absurd (isDigit_of_mem_natText hdigit) (by decide)

/-- Texts without a space are told apart by what stands before the first space. -/
theorem append_space_inj {xs us ys vs : List Char} (hx : ' ' ∉ xs) (hu : ' ' ∉ us)
    (h : xs ++ ' ' :: ys = us ++ ' ' :: vs) : xs = us ∧ ys = vs := by
  induction xs generalizing us with
  | nil =>
      cases us with
      | nil => exact ⟨rfl, (List.cons.inj h).2⟩
      | cons u us =>
          have hhead : ' ' = u := (List.cons.inj h).1
          exact absurd (hhead ▸ List.mem_cons_self) hu
  | cons x xs ih =>
      cases us with
      | nil =>
          have hhead : x = ' ' := (List.cons.inj h).1
          exact absurd (hhead ▸ List.mem_cons_self) hx
      | cons u us =>
          obtain ⟨rfl, htail⟩ := List.cons.inj h
          obtain ⟨rfl, hrest⟩ :=
            ih (fun hm => hx (List.mem_cons_of_mem _ hm)) (fun hm => hu (List.mem_cons_of_mem _ hm)) htail
          exact ⟨rfl, hrest⟩

/-- Where a space follows, the text of an integer ends: two texts that go on so write one integer and go
    on alike. -/
theorem intText_append_space_inj {a b : Int} {s t : String}
    (h : intText a ++ (" " ++ s) = intText b ++ (" " ++ t)) : a = b ∧ s = t := by
  have hchars := congrArg String.toList h
  simp only [String.toList_append] at hchars
  obtain ⟨htext, hrest⟩ :=
    append_space_inj (space_not_mem_intText a) (space_not_mem_intText b) hchars
  exact ⟨intText_injective (String.toList_injective htext), String.toList_injective hrest⟩

end Text

/-! ## Clauses of ranges -/

namespace Sql

/-- The operator of a range tells whether the upper end is included. -/
theorem upperText_injective {i j : Bool} {a b : Int}
    (h : (if i then " <= " else " < ") ++ intText a = (if j then " <= " else " < ") ++ intText b) :
    i = j ∧ a = b := by
  -- the third character of the text is a space or an equals sign
  have hthird := congrArg (fun s => s.toList[2]?) h
  cases i with
  | false =>
      cases j with
      | false => exact ⟨rfl, intText_injective ((String.append_right_inj _).mp h)⟩
      | true => simp [String.toList_append] at hthird
  | true =>
      cases j with
      | false => simp [String.toList_append] at hthird
      | true => exact ⟨rfl, intText_injective ((String.append_right_inj _).mp h)⟩

/-- The clause of a range tells its ends, and whether the upper one is included. -/
theorem rangeClause_injective (column : String) {r s : SplitRange}
    (h : rangeClause column r = rangeClause column s) : r = s := by
  obtain ⟨a, b, i⟩ := r
  obtain ⟨c, d, j⟩ := s
  simp only [rangeClause, String.append_assoc, String.append_right_inj] at h
  have hand : " AND " = " " ++ "AND " := rfl
  rw [hand, String.append_assoc, String.append_assoc] at h
  obtain ⟨rfl, htail⟩ := intText_append_space_inj h
  have hupper := (String.append_right_inj _).mp ((String.append_right_inj _).mp htail)
  obtain ⟨rfl, rfl⟩ := upperText_injective hupper
  rfl

/-- What a filter says about a value of its column: it is not below the first bound, and below the second
    or, where the filter says so, equal to it at most. -/
inductive FilterHolds (column : String) : String → Int → Prop where
  | below {lower upper value : Int} : lower ≤ value → value < upper →
      FilterHolds column
        (" AND " ++ column ++ " >= " ++ intText lower ++ " AND " ++ column ++ " < " ++ intText upper) value
  | upTo {lower upper value : Int} : lower ≤ value → value ≤ upper →
      FilterHolds column
        (" AND " ++ column ++ " >= " ++ intText lower ++ " AND " ++ column ++ " <= " ++ intText upper) value

/-- The clause of a range holds of the values in the range. -/
theorem filterHolds_rangeClause_iff (column : String) (r : SplitRange) (value : Int) :
    FilterHolds column (rangeClause column r) value ↔ r.Contains value := by
  constructor
  · intro h
    generalize htext : rangeClause column r = text at h
    cases h with
    | @below lower upper _ hlower hupper =>
        obtain rfl := rangeClause_injective column (s := ⟨lower, upper, false⟩) htext
        exact ⟨hlower, Or.inl hupper⟩
    | @upTo lower upper _ hlower hupper =>
        obtain rfl := rangeClause_injective column (s := ⟨lower, upper, true⟩) htext
        refine ⟨hlower, ?_⟩
        rcases Int.lt_or_eq_of_le hupper with hlt | heq
        · exact Or.inl hlt
        · exact Or.inr ⟨rfl, heq⟩
  · obtain ⟨lower, upper, inclusive⟩ := r
    rintro ⟨hlower, hlt | ⟨rfl, heq⟩⟩
    · cases inclusive with
      | false => exact .below hlower hlt
      | true => exact .upTo hlower (Int.le_of_lt hlt)
    · exact .upTo hlower (Int.le_of_eq heq)

end Sql

end SplitExport
