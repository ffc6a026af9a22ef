import Mathlib.Data.List.DropRight
import SplitExport.Text.Blank

/-!
# Trimming — what is left of a text without its ends

* A run of a class of characters ends where a character is outside of it (`takeWhile_dropWhile_append`).
* Dropping a class of characters from the right removes a suffix of the class, and what is left ends in
  no character of the class.
* Trimming keeps whatever is no blank (`mem_trim_iff`), and blanks around a text without blanks are all
  that it removes (`trim_between`).
-/

namespace SplitExport.Text

variable {p : Char → Bool} {xs ys : List Char}

/-! ## Runs -/

/-- A run of characters that satisfy a condition ends where it stops to hold. -/
theorem takeWhile_dropWhile_append (hall : ∀ x ∈ xs, p x = true)
    (hstop : ∀ y ∈ ys.head?, p y = false) : (xs ++ ys).takeWhile p = xs ∧ (xs ++ ys).dropWhile p = ys := by
  rw [List.takeWhile_append_of_pos hall, List.dropWhile_append_of_pos hall]
  cases ys with
  | nil => simp
  | cons y ys =>
      have hy : p y = false := hstop y rfl
      simp [hy]

/-! ## Dropping from the right -/

/-- What is dropped behind a text leaves what is dropped from the text itself. -/
theorem rdropWhile_append_of_all (h : ∀ y ∈ ys, p y = true) :
    (xs ++ ys).rdropWhile p = xs.rdropWhile p := by
  rw [List.rdropWhile, List.rdropWhile, List.reverse_append,
    List.dropWhile_append_of_pos fun y hy => h y (List.mem_reverse.mp hy)]

/-- Nothing is dropped from a text that ends in another character. -/
theorem rdropWhile_eq_self_of_getLast? (h : ∀ c ∈ xs.getLast?, p c = false) : xs.rdropWhile p = xs := by
  refine List.rdropWhile_eq_self_iff.mpr fun hne => ?_
  rw [h _ (List.getLast?_eq_some_getLast hne)]
  exact Bool.false_ne_true

/-- A text ends in no character that was dropped from its end. -/
theorem getLast?_rdropWhile {c : Char} (h : c ∈ (xs.rdropWhile p).getLast?) : p c = false := by
  have hne : xs.rdropWhile p ≠ [] := by
    intro hnil
    rw [hnil] at h
    exact nomatch h
  rw [List.getLast?_eq_some_getLast hne] at h
  obtain rfl := Option.some.inj h
  exact Bool.eq_false_iff.mpr (List.rdropWhile_last_not p xs hne)

/-- Dropping removes a suffix of dropped characters. -/
theorem exists_eq_rdropWhile_append (p : Char → Bool) (xs : List Char) :
    ∃ ys, xs = xs.rdropWhile p ++ ys ∧ ∀ y ∈ ys, p y = true :=
  ⟨xs.rtakeWhile p, List.rdropWhile_append_rtakeWhile.symm, fun _ => List.mem_rtakeWhile_imp⟩

/-! ## Characters that are kept -/

/-- Dropping from the left keeps the characters outside of the class. -/
theorem mem_dropWhile_iff {c : Char} (hc : p c = false) : c ∈ xs.dropWhile p ↔ c ∈ xs := by
  refine ⟨(List.dropWhile_sublist p).mem, fun hmem => ?_⟩
  rw [← List.takeWhile_append_dropWhile (p := p) (l := xs)] at hmem
  rcases List.mem_append.mp hmem with htaken | hleft
  · rw [List.mem_takeWhile_imp htaken] at hc
    exact nomatch hc
  · exact hleft

/-- Trimming keeps the characters that are no blanks. -/
theorem mem_trim_iff {c : Char} (hc : isBlank c = false) : c ∈ trim xs ↔ c ∈ xs := by
  rw [trim, trimRight, dropRightWhile, List.mem_reverse, mem_dropWhile_iff hc, List.mem_reverse, trimLeft,
    mem_dropWhile_iff hc]

/-! ## Blanks at the ends -/

/-- Blanks around a text without blanks are all that trimming removes. -/
theorem trim_between {before after cs : List Char} (hbefore : ∀ c ∈ before, isBlank c = true)
    (hcs : ∀ c ∈ cs, isBlank c = false) (hafter : ∀ c ∈ after, isBlank c = true) :
    trim (before ++ cs ++ after) = cs := by
  rw [trim, trimLeft, List.append_assoc, List.dropWhile_append_of_pos hbefore]
  cases cs with
  | nil =>
      rw [List.nil_append, List.dropWhile_eq_nil_iff.mpr hafter]
      rfl
  | cons c cs =>
      rw [List.cons_append, List.dropWhile_cons_of_neg (by simp [hcs c List.mem_cons_self]),
        ← List.cons_append]
      refine (rdropWhile_append_of_all hafter).trans (rdropWhile_eq_self_of_getLast? fun x hx => ?_)
      exact hcs x (List.mem_of_mem_getLast? hx)

/-- A text without blanks is not trimmed. -/
theorem trim_eq_self {cs : List Char} (h : ∀ c ∈ cs, isBlank c = false) : trim cs = cs := by
  have htrim : trim ([] ++ cs ++ []) = cs := trim_between (fun _ hc => nomatch hc) h fun _ hc => nomatch hc
  rwa [List.nil_append, List.append_nil] at htrim

/-- A trimmed text does not end in a blank. -/
theorem isBlank_getLast?_trim {cs : List Char} {c : Char} (h : (trim cs).getLast? = some c) :
    isBlank c = false := by
  have hlast : c ∈ ((trimLeft cs).rdropWhile isBlank).getLast? := h
  exact getLast?_rdropWhile hlast

end SplitExport.Text
