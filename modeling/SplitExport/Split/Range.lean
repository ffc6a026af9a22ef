/-!
# Split ranges — pieces of the values of a split column

A range includes its lower end; its upper end belongs to the next range, except for the last one.
`SplitRange.Contains` says which integers lie in a range, and `cut` lays ranges of one width side by
side from a lower to an upper end.
-/

namespace SplitExport

/-- A range of integers. -/
structure SplitRange where
  lower : Int
  upper : Int
  /-- Whether the upper end belongs to the range. -/
  upperInclusive : Bool := false
deriving DecidableEq, Repr

namespace SplitRange

/-- An integer lies in a range. -/
def Contains (r : SplitRange) (x : Int) : Prop :=
  r.lower ≤ x ∧ (x < r.upper ∨ (r.upperInclusive = true ∧ x = r.upper))

instance (r : SplitRange) (x : Int) : Decidable (r.Contains x) :=
  inferInstanceAs (Decidable (_ ∧ _))

/-- The ranges from `lower` to `upper`: half-open ones of the given width as long as another one ends
    before `upper`, and one that takes what remains and includes `upper`. A width that is not
    positive cuts nothing. -/
def cut (width lower upper : Int) : List SplitRange :=
  if 0 < width ∧ lower + width < upper then
    ⟨lower, lower + width, false⟩ :: cut width (lower + width) upper
  else [⟨lower, upper, true⟩]
termination_by (upper - lower).toNat

/-- How often a range from `lower` to `upper` is cut into pieces of the given width. -/
def cuts (width lower upper : Int) : Nat :=
  if 0 < width then ((upper - lower - 1).ediv width).toNat else 0

end SplitRange

end SplitExport
