/-!
# Rounding — quotients of natural numbers to the nearest integer

* `roundHalfEven num den` is the integer nearest to `num / den`, the even one of two that are equally
  near. Binary floating point and fixed decimal places both round by it.
* `powNum b e / powDen b e` is the power `b^e` for an exponent of either sign.
-/

namespace SplitExport.Number

/-! ## Powers -/

/-- The numerator of a power. -/
def powNum (base : Nat) (e : Int) : Nat :=
  if e < 0 then 1 else base.pow e.toNat

/-- The denominator of a power. -/
def powDen (base : Nat) (e : Int) : Nat :=
  if e < 0 then base.pow (-e).toNat else 1

/-! ## Rounding -/

/-- The nearest natural number to a quotient, the even neighbour at a tie. -/
def roundHalfEven (num den : Nat) : Nat :=
  let whole := num / den
  let twice := 2 * (num % den)
  if twice < den then whole
  else if den < twice then whole + 1
  else if whole % 2 = 0 then whole
  else whole + 1

/-- The quotient is at least half a unit below and at most half a unit above its rounding. -/
theorem roundHalfEven_bounds (num : Nat) {den : Nat} (h : 0 < den) :
    2 * num ≤ 2 * den * roundHalfEven num den + den ∧
      2 * den * roundHalfEven num den ≤ 2 * num + den := by
  have hdiv : den * (num / den) + num % den = num := Nat.div_add_mod num den
  have hmod : num % den < den := Nat.mod_lt num h
  unfold roundHalfEven
  dsimp only
  have hdist : 2 * den * (num / den + 1) = 2 * (den * (num / den)) + 2 * den := by
    rw [Nat.mul_add, Nat.mul_assoc, Nat.mul_one]
  have hassoc : 2 * den * (num / den) = 2 * (den * (num / den)) := Nat.mul_assoc ..
  split
  · omega
  · split
    · omega
    · split <;> omega

/-- A whole quotient is its own rounding. -/
theorem roundHalfEven_mul (k : Nat) {den : Nat} (h : 0 < den) :
    roundHalfEven (k * den) den = k := by
  unfold roundHalfEven
  simp [Nat.mul_div_cancel _ h, h]

end SplitExport.Number
