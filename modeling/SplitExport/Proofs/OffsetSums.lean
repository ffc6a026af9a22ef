import Mathlib.Data.List.SplitBy
import SplitExport.Proofs.OffsetTexts
import SplitExport.Proofs.Trimming
import SplitExport.Proofs.WindowEnds

/-!
# Offset sums — what a row of components adds up to

* `sumOf` adds components up, and a row of components is read as their sum, if all their amounts are
  written in digits of ASCII (`readComponents_offsetText_eq_ok_iff`); nothing else is read from it.
* The runs of digits of a row are the amounts of its components (`digitRuns_offsetText`), so that a row
  whose amounts are not all zero adds something (`exists_value_ne_zero_of_allZero`).
-/

namespace SplitExport.Partition

open SplitExport.Number SplitExport.Text SplitExport.Results

/-! ## Sums -/

namespace PeriodUnit

/-- The offset that an amount of a unit makes. -/
def offset (amount : Nat) : PeriodUnit → Offset
  | .day => { days := amount }
  | .week => { weeks := amount }
  | .month => { months := amount }
  | .quarter => { months := 3 * amount }
  | .year => { months := 12 * amount }

/-- The letters of a unit are read as the unit. -/
theorem ofUnit?_text (u : PeriodUnit) (amount : Nat) :
    Offset.ofUnit? amount (String.ofList u.text) = some (u.offset amount) := by
  cases u <;> rfl

end PeriodUnit

namespace Component

/-- The offset that a component makes. -/
def offset (c : Component) : Offset :=
  c.unit.offset c.value

/-- The amount of a component is written in digits of ASCII. -/
def IsPlain (c : Component) : Prop :=
  ∀ x ∈ c.amount, isAsciiDigit x = true

instance (c : Component) : Decidable c.IsPlain :=
  decidable_of_iff (c.amount.all isAsciiDigit = true) List.all_eq_true

end Component

/-- The sum of components. -/
def sumOf : List Component → Offset
  | [] => {}
  | c :: components => c.offset + sumOf components

/-- Components lead onwards by whole days. -/
theorem isOnward_sumOf (components : List Component) : (sumOf components).IsOnward := by
  induction components with
  | nil => exact ⟨rfl, rfl⟩
  | cons c components ih =>
      have hwhole : c.offset.nanoseconds = 0 := by
        rw [Component.offset]
        cases c.unit <;> rfl
      refine ⟨ih.forward, ?_⟩
      show c.offset.nanoseconds + (sumOf components).nanoseconds = 0
      rw [hwhole, ih.whole_days]

/-- A component that is not zero makes the sum one that adds something. -/
theorem adds_sumOf {components : List Component} {c : Component} (hmem : c ∈ components)
    (hvalue : c.value ≠ 0) : (sumOf components).Adds := by
  induction components with
  | nil => exact nomatch hmem
  | cons first components ih =>
      show first.offset.months + (sumOf components).months ≠ 0 ∨
        first.offset.weeks + (sumOf components).weeks ≠ 0 ∨
        first.offset.days + (sumOf components).days ≠ 0
      rcases List.mem_cons.mp hmem with rfl | hmem
      · have hfirst : c.offset.Adds := by
          rw [Component.offset, Offset.Adds]
          cases c.unit <;> dsimp only [PeriodUnit.offset] <;> omega
        rw [Offset.Adds] at hfirst
        omega
      · have hrest := ih hmem
        rw [Offset.Adds] at hrest
        omega

/-! ## Reading rows -/

/-- A row begins with a digit. -/
theorem isDigit_of_mem_head?_offsetText {components : List Component} {x : Char}
    (h : x ∈ (offsetText components).head?) : isDigit x = true := by
  cases components with
  | nil => exact nomatch h
  | cons c components =>
      have hx : x ∈ c.amount.head? := by
        rw [offsetText, List.flatMap_cons, Component.text, List.append_assoc] at h
        rwa [List.head?_append_of_ne_nil _ c.amount_ne_nil] at h
      exact c.isDigit_of_mem x (List.mem_of_mem_head? hx)

section Reading

variable {source : String} {c : Component} {rest : List Char}

/-- A component in digits of ASCII is read as its offset. -/
theorem readComponents_plain (hplain : c.IsPlain) (hrest : ∀ x ∈ rest.head?, isDigit x = true) :
    readComponents source (c.text ++ rest) = (readComponents source rest).map (c.offset + ·) := by
  obtain ⟨hletters, hunit⟩ := c.unit.text_letters
  have hdigits : ∀ y ∈ (c.unit.text ++ rest).head?, isAsciiDigit y = false := by
    intro y hy
    rw [List.head?_append_of_ne_nil _ hletters] at hy
    by_contra hdigit
    have hnone := c.unit.isDigit_of_mem_text y (List.mem_of_mem_head? hy)
    rw [isDigit_of_isAsciiDigit (Bool.not_eq_false _ ▸ hdigit)] at hnone
    exact nomatch hnone
  have hstop : ∀ y ∈ rest.head?, isAsciiLetter y = false :=
    fun y hy => isAsciiLetter_of_isDigit (hrest y hy)
  obtain ⟨htakeUnit, hdropUnit⟩ := takeWhile_dropWhile_append hunit hstop
  obtain ⟨a, as, hamount, htext⟩ := c.exists_amount_eq_cons
  rw [Component.IsPlain, hamount] at hplain
  obtain ⟨htake, hdrop⟩ :=
    takeWhile_dropWhile_append (fun x hx => hplain x (List.mem_cons_of_mem _ hx)) hdigits
  have hvalue : digitsValue (a :: as) = c.value := by rw [Component.value, hamount]
  have hsome : c.unit.text.isEmpty = false := by
    rw [List.isEmpty_eq_false_iff]
    exact hletters
  rw [htext, readComponents, hplain a List.mem_cons_self, htake, hdrop, hvalue]
  dsimp only
  rw [htakeUnit, hdropUnit, hsome, c.unit.ofUnit?_text]
  rfl

/-- A component with a digit of another script is not read. -/
theorem readComponents_not_plain (hplain : ¬ c.IsPlain) :
    ∃ cause, readComponents source (c.text ++ rest) = .error cause := by
  obtain ⟨a, as, hamount, htext⟩ := c.exists_amount_eq_cons
  rw [htext, readComponents]
  by_cases ha : isAsciiDigit a = true
  · -- what follows the digits of ASCII is a digit, thus no unit
    cases hother : as.dropWhile isAsciiDigit with
    | nil =>
        refine absurd ?_ hplain
        intro x hx
        rw [hamount] at hx
        rcases List.mem_cons.mp hx with rfl | hx
        · exact ha
        · exact List.dropWhile_eq_nil_iff.mp hother x hx
    | cons z more =>
        have hleft : z ∈ as.dropWhile isAsciiDigit := by
          rw [hother]
          exact List.mem_cons_self
        have hz : z ∈ c.amount := by
          rw [hamount]
          exact List.mem_cons_of_mem _ ((List.dropWhile_sublist _).mem hleft)
        have hletter : isAsciiLetter z = false := isAsciiLetter_of_isDigit (c.isDigit_of_mem z hz)
        have hdrop : (as ++ (c.unit.text ++ rest)).dropWhile isAsciiDigit =
            z :: (more ++ (c.unit.text ++ rest)) := by
          rw [List.dropWhile_append, hother]
          rfl
        rw [hdrop]
        refine ⟨.noUnit source, ?_⟩
        simp [ha, hletter]
  · exact ⟨.noAmount a, by simp [ha]⟩

/-- **A row of components is read as their sum**, if all its digits are those of ASCII. -/
theorem readComponents_offsetText_eq_ok_iff {components : List Component} {offset : Offset} :
    readComponents source (offsetText components) = .ok offset ↔
      (∀ c ∈ components, c.IsPlain) ∧ offset = sumOf components := by
  induction components generalizing offset with
  | nil =>
      rw [offsetText, List.flatMap_nil, readComponents]
      constructor
      · intro h
        exact ⟨fun c hc => absurd hc List.not_mem_nil, (Except.ok.inj h).symm⟩
      · rintro ⟨-, rfl⟩
        rfl
  | cons c components ih =>
      have htext : offsetText (c :: components) = c.text ++ offsetText components := rfl
      rw [htext]
      by_cases hplain : c.IsPlain
      · rw [readComponents_plain hplain fun x hx => isDigit_of_mem_head?_offsetText hx, map_eq_ok]
        constructor
        · rintro ⟨sum, hsum, rfl⟩
          obtain ⟨hrest, rfl⟩ := ih.mp hsum
          refine ⟨fun d hd => ?_, rfl⟩
          rcases List.mem_cons.mp hd with rfl | hd
          · exact hplain
          · exact hrest d hd
        · rintro ⟨hall, rfl⟩
          exact ⟨_, ih.mpr ⟨fun d hd => hall d (List.mem_cons_of_mem _ hd), rfl⟩, rfl⟩
      · have hnone : ∃ cause, readComponents source (c.text ++ offsetText components) = .error cause :=
          readComponents_not_plain hplain
        obtain ⟨cause, hcause⟩ := hnone
        constructor
        · intro h
          rw [hcause] at h
          cases h
        · exact fun h => absurd (h.1 c List.mem_cons_self) hplain

end Reading

/-! ## Reading offsets -/

/-- No character of a row is a sign. -/
theorem sign_not_mem_offsetText {components : List Component} :
    '-' ∉ offsetText components ∧ '+' ∉ offsetText components := by
  have hnone : ∀ sign : Char, isDigit sign = false → (∀ u : PeriodUnit, sign ∉ u.text) →
      sign ∉ offsetText components := by
    intro sign hdigit hunit hmem
    obtain ⟨c, -, hc⟩ := List.mem_flatMap.mp hmem
    rcases List.mem_append.mp hc with hamount | htext
    · rw [c.isDigit_of_mem sign hamount] at hdigit
      exact nomatch hdigit
    · exact hunit c.unit htext
  constructor
  · exact hnone '-' (by decide) (by intro u; cases u <;> decide)
  · exact hnone '+' (by decide) (by intro u; cases u <;> decide)

/-- A row of components is read from its front. -/
theorem readOffset_of_row {period : String} {components : List Component}
    (h : period.toList = offsetText components) :
    readOffset period = readComponents period (offsetText components) := by
  have hsigns : '-' ∉ offsetText components ∧ '+' ∉ offsetText components := sign_not_mem_offsetText
  obtain ⟨hminus, hplus⟩ := hsigns
  have hcount : (offsetText components).count '-' = 0 := List.count_eq_zero.mpr hminus
  have hcontains : (offsetText components).contains '-' = false := by
    rw [List.contains_eq_mem]
    exact decide_eq_false hminus
  have hhead : (offsetText components).head? ≠ some '+' := fun hfirst => hplus (List.mem_of_mem_head? hfirst)
  rw [readOffset, h, hcount, if_neg (by decide), hcontains, if_neg Bool.false_ne_true, if_neg hhead]
  split
  · rename_i rest hfirst
    rw [hfirst] at hminus
    exact absurd List.mem_cons_self hminus
  · rfl

/-! ## Amounts -/

/-- Characters that are all digits, or all no digits, are one run. -/
theorem splitBy_run {cs : List Char} (hne : cs ≠ []) (b : Bool) (h : ∀ c ∈ cs, isDigit c = b) :
    cs.splitBy (fun x y => isDigit x == isDigit y) = [cs] := by
  refine List.splitBy_of_isChain hne (List.Pairwise.isChain ?_)
  refine List.pairwise_iff_forall_sublist.mpr fun {x y} hxy => ?_
  have hx : x ∈ cs := hxy.mem List.mem_cons_self
  have hy : y ∈ cs := hxy.mem (List.mem_cons_of_mem _ List.mem_cons_self)
  rw [h x hx, h y hy, beq_self_eq_true]

/-- The runs of digits of a row are the amounts of its components. -/
theorem digitRuns_offsetText (components : List Component) :
    digitRuns (offsetText components) = components.map Component.amount := by
  induction components with
  | nil => rfl
  | cons c components ih =>
      have hletters : ∀ x ∈ c.unit.text, isDigit x = false := c.unit.isDigit_of_mem_text
      have hamountRun : c.amount.splitBy (fun x y => isDigit x == isDigit y) = [c.amount] :=
        splitBy_run c.amount_ne_nil true c.isDigit_of_mem
      have hunitRun : c.unit.text.splitBy (fun x y => isDigit x == isDigit y) = [c.unit.text] :=
        splitBy_run c.unit.text_letters.1 false hletters
      have hsplit : (offsetText (c :: components)).splitBy (fun x y => isDigit x == isDigit y) =
          c.amount :: c.unit.text ::
            (offsetText components).splitBy (fun x y => isDigit x == isDigit y) := by
        have htext : offsetText (c :: components) = c.amount ++ (c.unit.text ++ offsetText components) :=
          List.append_assoc ..
        rw [htext, List.splitBy_append, List.splitBy_append, hamountRun, hunitRun]
        · rfl
        · -- the unit ends where the next amount begins
          intro x hx y hy
          rw [hletters x (List.mem_of_mem_getLast? hx), isDigit_of_mem_head?_offsetText hy]
          rfl
        · intro x hx y hy
          rw [List.head?_append_of_ne_nil _ c.unit.text_letters.1] at hy
          rw [c.isDigit_of_mem x (List.mem_of_mem_getLast? hx), hletters y (List.mem_of_mem_head? hy)]
          rfl
      have hkept : c.amount.any isDigit = true := by
        obtain ⟨x, hx⟩ := List.exists_mem_of_ne_nil _ c.amount_ne_nil
        exact List.any_eq_true.mpr ⟨x, hx, c.isDigit_of_mem x hx⟩
      have hdropped : ¬ c.unit.text.any isDigit = true := by
        intro hany
        obtain ⟨x, hx, hdigit⟩ := List.any_eq_true.mp hany
        rw [hletters x hx] at hdigit
        exact nomatch hdigit
      rw [digitRuns, hsplit, List.filter_cons, if_pos hkept, List.filter_cons, if_neg hdropped]
      exact congrArg _ ih

/-- Amounts that are not all zero have one that is not. -/
theorem exists_value_ne_zero_of_allZero {components : List Component}
    (h : allZero (components.map Component.amount) = .ok false) : ∃ c ∈ components, c.value ≠ 0 := by
  induction components with
  | nil => exact nomatch h
  | cons c components ih =>
      rw [List.map_cons, allZero] at h
      obtain ⟨amount, hamount, hrest⟩ := bind_eq_ok.mp h
      rw [readInteger_of_digits c.amount_ne_nil c.isDigit_of_mem] at hamount
      by_cases hzero : amount = 0
      · rw [if_pos hzero] at hrest
        obtain ⟨d, hd, hvalue⟩ := ih hrest
        exact ⟨d, List.mem_cons_of_mem _ hd, hvalue⟩
      · refine ⟨c, List.mem_cons_self, fun hvalue => hzero ?_⟩
        split at hamount
        · exact nomatch hamount
        · rw [← Except.ok.inj hamount]
          exact congrArg Int.ofNat hvalue

end SplitExport.Partition
