import SplitExport.Partition.Offset
import SplitExport.Partition.Period
import SplitExport.Proofs.Digits
import SplitExport.Proofs.PatternLanguages
import SplitExport.Proofs.Results
import SplitExport.Settings

/-!
# Offset texts — how periods are written in their normal form

A period in its normal form is a row of components, each an amount and a unit.

* `Component` is an amount in digits of any script with its unit, and `offsetText` writes components one
  behind the other.
* The pattern of an installation that changes nothing fits exactly such rows, with at most one line feed
  behind them (`fitsFront_periodPattern_iff`).
* No character of such a row is a blank, and none of them makes an ISO period of it.
-/

namespace SplitExport

open SplitExport.Text
open scoped Computability

namespace Partition

/-! ## Components -/

/-- The units that periods are counted in. -/
inductive PeriodUnit where
  | day
  | week
  | month
  | quarter
  | year
deriving DecidableEq, Repr

namespace PeriodUnit

/-- The letters of a unit. -/
def text : PeriodUnit → List Char
  | .day => ['d']
  | .week => ['w']
  | .month => ['m', 'o']
  | .quarter => ['q']
  | .year => ['y']

/-- What holds of six letters holds of those of every unit. -/
theorem forall_mem_text {P : Char → Prop} (h : P 'd' ∧ P 'w' ∧ P 'm' ∧ P 'o' ∧ P 'q' ∧ P 'y')
    (u : PeriodUnit) : ∀ c ∈ u.text, P c := by
  cases u <;> simp [text, h]

/-- The letters of a unit are ASCII letters, and there are some. -/
theorem text_letters (u : PeriodUnit) : u.text ≠ [] ∧ ∀ c ∈ u.text, isAsciiLetter c = true := by
  refine ⟨?_, forall_mem_text (by decide) u⟩
  cases u <;> exact List.cons_ne_nil _ _

/-- The letters of a unit are no blanks. -/
theorem isBlank_of_mem_text (u : PeriodUnit) : ∀ c ∈ u.text, isBlank c = false :=
  forall_mem_text (by decide) u

/-- The letters of a unit are no digits. -/
theorem isDigit_of_mem_text (u : PeriodUnit) : ∀ c ∈ u.text, isDigit c = false :=
  forall_mem_text (by decide) u

end PeriodUnit

/-- A component of an offset: an amount, written in digits of any script, and a unit. -/
structure Component where
  amount : List Char
  unit : PeriodUnit
  amount_ne_nil : amount ≠ []
  isDigit_of_mem : ∀ c ∈ amount, isDigit c = true

namespace Component

/-- The characters of a component. -/
def text (c : Component) : List Char :=
  c.amount ++ c.unit.text

/-- A component begins with a character of its amount. -/
theorem exists_amount_eq_cons (c : Component) :
    ∃ a as, c.amount = a :: as ∧ ∀ rest, c.text ++ rest = a :: (as ++ (c.unit.text ++ rest)) := by
  obtain ⟨a, as, hamount⟩ := List.exists_cons_of_ne_nil c.amount_ne_nil
  refine ⟨a, as, hamount, fun rest => ?_⟩
  rw [text, hamount, List.append_assoc, List.cons_append]

/-- The number that the amount of a component writes. -/
def value (c : Component) : Nat :=
  digitsValue c.amount

end Component

/-- The characters of components, one behind the other. -/
def offsetText (components : List Component) : List Char :=
  components.flatMap Component.text

/-! ## The pattern of periods -/

/-- A character that stands for itself. -/
def literal (c : Char) : Pattern :=
  .char (.one c.toNat .exact false)

/-- The pattern of amounts. -/
def amountPattern : Pattern :=
  .repeated .greedy 1 none (.char (.set [.named .digit false] .exact false false))

/-- The pattern of units. -/
def unitPattern : Pattern :=
  .choice (literal 'd') (.choice (literal 'w') (.choice (.sequence (literal 'm') (literal 'o'))
    (.choice (literal 'q') (literal 'y'))))

/-- The pattern of periods in an installation that changes nothing. -/
def periodPattern : Pattern :=
  .sequence (.place .start)
    (.sequence (.repeated .greedy 1 none (.sequence amountPattern unitPattern)) (.place .finish))

/-- The units of an installation that changes nothing make this pattern. -/
theorem offsetPattern_default : offsetPattern ({} : Settings).periodUnits = .ok periodPattern :=
  Results.eq_ok_of_toOption (by decide +kernel)

/-! ## Its language -/

/-- A set of characters, repeated, takes the words of its characters. -/
theorem mem_words_kstar {test : CharTest} {word : List Char} :
    word ∈ test.words∗ ↔ ∀ c ∈ word, test.holds c = true := by
  constructor
  · intro h
    obtain ⟨parts, rfl, hparts⟩ := Language.mem_kstar.mp h
    intro c hc
    obtain ⟨part, hpart, hmem⟩ := List.mem_flatten.mp hc
    obtain ⟨x, rfl, hx⟩ := hparts part hpart
    obtain rfl := List.mem_singleton.mp hmem
    exact hx
  · intro h
    induction word with
    | nil => exact Language.nil_mem_kstar _
    | cons c word ih =>
        rw [← Language.one_add_self_mul_kstar_eq_kstar]
        have hrest := ih fun x hx => h x (List.mem_cons_of_mem _ hx)
        exact Or.inr (Language.append_mem_mul (a := [c]) ⟨c, rfl, h c List.mem_cons_self⟩ hrest)

/-- The digits of any script are the digits of the pattern. -/
theorem holds_digit (c : Char) :
    (CharTest.set [.named .digit false] .exact false false).holds c = isDigit c := by
  simp [CharTest.holds, CharRule.holds, CharKind.holds, Casing.fold]

/-- A literal takes its character. -/
theorem mem_words_literal {c : Char} {word : List Char} :
    word ∈ (CharTest.one c.toNat .exact false).words ↔ word = [c] := by
  have hholds : ∀ x : Char, (CharTest.one c.toNat .exact false).holds x = true ↔ x = c := by
    intro x
    simp [CharTest.holds, Casing.fold, Casing.same, Char.toNat_inj]
  constructor
  · rintro ⟨x, rfl, hx⟩
    rw [(hholds x).mp hx]
  · rintro rfl
    exact ⟨c, rfl, (hholds c).mpr rfl⟩

/-- The words of amounts: digits, at least one. -/
def amountWords : Language Char :=
  {word | word ≠ [] ∧ ∀ c ∈ word, isDigit c = true}

/-- The words of units. -/
def unitWords : Language Char :=
  {word | ∃ u : PeriodUnit, word = u.text}

/-- The words of components. -/
def componentWords : Language Char :=
  {word | ∃ c : Component, word = c.text}

/-- The pattern of amounts takes amounts. -/
theorem takes_amountPattern (cs : List Char) : amountPattern.Takes cs amountWords := by
  have hnonempty : [] ∉ (CharTest.set [.named .digit false] .exact false false).words := by
    rintro ⟨c, hc, -⟩
    exact nomatch hc
  -- one digit, and any number of digits behind it
  have hwords : amountWords = (CharTest.set [.named .digit false] .exact false false).words *
      (CharTest.set [.named .digit false] .exact false false).words∗ := by
    refine Language.ext fun word => ?_
    rw [Language.mem_mul]
    constructor
    · rintro ⟨hne, hdigits⟩
      cases word with
      | nil => exact absurd rfl hne
      | cons c word =>
          refine ⟨[c], ⟨c, rfl, ?_⟩, word, mem_words_kstar.mpr fun x hx => ?_, rfl⟩
          · rw [holds_digit]
            exact hdigits c List.mem_cons_self
          · rw [holds_digit]
            exact hdigits x (List.mem_cons_of_mem _ hx)
    · rintro ⟨_, ⟨c, rfl, hc⟩, word, hword, rfl⟩
      refine ⟨List.cons_ne_nil _ _, fun x hx => ?_⟩
      rw [← holds_digit]
      rcases List.mem_cons.mp hx with rfl | hmem
      · exact hc
      · exact mem_words_kstar.mp hword x hmem
  rw [hwords]
  exact Pattern.takes_repeated (Pattern.takes_char cs _) hnonempty

/-- The pattern of units takes units. -/
theorem takes_unitPattern (cs : List Char) : unitPattern.Takes cs unitWords := by
  have hliteral : ∀ c : Char, (literal c).Takes cs (CharTest.one c.toNat .exact false).words :=
    fun c => Pattern.takes_char cs _
  have htakes : unitPattern.Takes cs _ :=
    Pattern.takes_choice (hliteral 'd') (Pattern.takes_choice (hliteral 'w')
      (Pattern.takes_choice (Pattern.takes_sequence (hliteral 'm') (hliteral 'o'))
        (Pattern.takes_choice (hliteral 'q') (hliteral 'y'))))
  refine (congrArg (Pattern.Takes cs unitPattern) (Language.ext fun word => ?_)).mpr htakes
  simp only [Language.mem_add, Language.mem_mul, mem_words_literal]
  constructor
  · rintro ⟨u, rfl⟩
    cases u <;> simp [PeriodUnit.text]
  · rintro (rfl | rfl | ⟨_, rfl, _, rfl, rfl⟩ | rfl | rfl)
    · exact ⟨.day, rfl⟩
    · exact ⟨.week, rfl⟩
    · exact ⟨.month, rfl⟩
    · exact ⟨.quarter, rfl⟩
    · exact ⟨.year, rfl⟩

/-- An amount and a unit make a component. -/
theorem amountWords_mul_unitWords : amountWords * unitWords = componentWords := by
  refine Language.ext fun word => ?_
  rw [Language.mem_mul]
  constructor
  · rintro ⟨amount, ⟨hne, hdigits⟩, _, ⟨u, rfl⟩, rfl⟩
    exact ⟨⟨amount, u, hne, hdigits⟩, rfl⟩
  · rintro ⟨c, rfl⟩
    exact ⟨c.amount, ⟨c.amount_ne_nil, c.isDigit_of_mem⟩, c.unit.text, ⟨c.unit, rfl⟩, rfl⟩

/-- Rows of components are the texts of components. -/
theorem mem_componentWords_kstar {word : List Char} :
    word ∈ componentWords∗ ↔ ∃ components, word = offsetText components := by
  constructor
  · intro h
    obtain ⟨parts, rfl, hparts⟩ := Language.mem_kstar.mp h
    induction parts with
    | nil => exact ⟨[], rfl⟩
    | cons part parts ih =>
        obtain ⟨c, rfl⟩ := hparts part List.mem_cons_self
        have hrest : ∀ y ∈ parts, y ∈ componentWords := fun y hy => hparts y (List.mem_cons_of_mem _ hy)
        obtain ⟨components, hcomponents⟩ := ih hrest (Language.join_mem_kstar hrest)
        exact ⟨c :: components, by rw [List.flatten_cons, hcomponents]; rfl⟩
  · rintro ⟨components, rfl⟩
    refine Language.mem_kstar.mpr ⟨components.map Component.text, List.flatMap_def, ?_⟩
    intro word hword
    obtain ⟨c, -, rfl⟩ := List.mem_map.mp hword
    exact ⟨c, rfl⟩

/-- **The pattern of periods fits the rows of components**, and these with a line feed behind them. -/
theorem fitsFront_periodPattern_iff {cs : List Char} :
    periodPattern.fitsFront cs = true ↔
      ∃ first rest, cs = offsetText (first :: rest) ∨ cs = offsetText (first :: rest) ++ ['\n'] := by
  have hcomponent := Pattern.takes_sequence (takes_amountPattern cs) (takes_unitPattern cs)
  rw [amountWords_mul_unitWords] at hcomponent
  have hnonempty : [] ∉ componentWords := by
    rintro ⟨c, hc⟩
    exact c.amount_ne_nil (List.append_eq_nil_iff.mp hc.symm).1
  have hrow : ∀ word : List Char, word ∈ componentWords * componentWords∗ ↔
      ∃ first rest, word = offsetText (first :: rest) := by
    intro word
    rw [Language.mem_mul]
    constructor
    · rintro ⟨_, ⟨first, rfl⟩, more, hmore, rfl⟩
      obtain ⟨rest, rfl⟩ := mem_componentWords_kstar.mp hmore
      exact ⟨first, rest, rfl⟩
    · rintro ⟨first, rest, rfl⟩
      exact ⟨first.text, ⟨first, rfl⟩, offsetText rest, mem_componentWords_kstar.mpr ⟨rest, rfl⟩, rfl⟩
  rw [periodPattern, Pattern.fitsFront_ends_iff (Pattern.takes_repeated hcomponent hnonempty)]
  simp only [hrow]
  constructor
  · rintro (⟨first, rest, hcs⟩ | ⟨_, ⟨first, rest, rfl⟩, hcs⟩)
    · exact ⟨first, rest, Or.inl hcs⟩
    · exact ⟨first, rest, Or.inr hcs⟩
  · rintro ⟨first, rest, hcs | hcs⟩
    · exact Or.inl ⟨first, rest, hcs⟩
    · exact Or.inr ⟨_, ⟨first, rest, rfl⟩, hcs⟩

/-- No character of a row of components is a blank. -/
theorem isBlank_of_mem_offsetText {components : List Component} {c : Char}
    (h : c ∈ offsetText components) : isBlank c = false := by
  obtain ⟨component, -, hmem⟩ := List.mem_flatMap.mp h
  rcases List.mem_append.mp hmem with hamount | hunit
  · exact isBlank_of_isDigit (component.isDigit_of_mem c hamount)
  · exact component.unit.isBlank_of_mem_text c hunit

end Partition

end SplitExport
