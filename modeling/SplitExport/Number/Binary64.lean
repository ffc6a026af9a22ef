import SplitExport.Number.Rounding

/-!
# Binary64 — floating point numbers as exact values

A finite number is a sign, a significand and a power of two, kept as natural numbers and integers:
every operation is exact arithmetic followed by one rounding.

* `BinaryFormat` describes a format by its precision and its least and greatest unit;
* `BinaryFormat.ofRatio` gives the number of a format nearest to a quotient, ties to even,
  infinity beyond the greatest;
* `Binary64.ratioOf`, `truncate?` and `toInteger?` go back to exact values;
* `Binary64.times` and `dividedBy` multiply and divide by a positive number, rounded once.
-/

namespace SplitExport.Number

/-! ## Numbers and formats -/

/-- A floating point number: `finite negative m q` is `m · 2^q` or its opposite, and zero has a
    sign. -/
inductive Binary64 where
  | nan
  | infinity (negative : Bool)
  | finite (negative : Bool) (significand : Nat) (exponent : Int)
deriving DecidableEq, Repr

/-- A binary format: the bits of its significand, and the exponents of its least and greatest
    unit in the last place. -/
structure BinaryFormat where
  precision : Nat
  minExponent : Int
  maxExponent : Int
deriving DecidableEq, Repr

/-- The format with 53 bits. -/
def BinaryFormat.double : BinaryFormat := ⟨53, -1074, 971⟩

/-- The format with 24 bits. -/
def BinaryFormat.single : BinaryFormat := ⟨24, -149, 104⟩

/-! ## Rounding into a format -/

/-- The quotient `num / den` in units of `2^q`, rounded. -/
def roundToUnit (num den : Nat) (q : Int) : Nat :=
  roundHalfEven (num * powDen 2 q) (den * powNum 2 q)

/-- The greatest `e` with `2^e ≤ num / den`, for positive `num` and `den`. -/
def floorLog2 (num den : Nat) : Int :=
  let e : Int := (num.log2 : Int) - den.log2
  if den * powNum 2 e ≤ num * powDen 2 e then e else e - 1

/-- The number of the format nearest to `num / den`, with the given sign. -/
def BinaryFormat.ofRatio (f : BinaryFormat) (negative : Bool) (num den : Nat) : Binary64 :=
  if num = 0 then .finite negative 0 f.minExponent
  else
    let q := max (floorLog2 num den - (f.precision - 1 : Nat)) f.minExponent
    let m := roundToUnit num den q
    let (m, q) := if m = Nat.pow 2 f.precision then (m / 2, q + 1) else (m, q)
    if f.maxExponent < q then .infinity negative else .finite negative m q

namespace Binary64

/-- The number nearest to an integer. -/
def ofInt (i : Int) : Binary64 :=
  BinaryFormat.double.ofRatio (i < 0) i.natAbs 1

/-! ## Exact values -/

/-- The size of `m · 2^q` as a quotient of natural numbers. -/
def ratioOf (m : Nat) (q : Int) : Nat × Nat :=
  (m * powNum 2 q, powDen 2 q)

/-- The number in another format, as a number of this type. -/
def narrow (f : BinaryFormat) : Binary64 → Binary64
  | .finite negative m q =>
    match f.ofRatio negative (ratioOf m q).1 (ratioOf m q).2 with
    | .finite negative m q => BinaryFormat.double.ofRatio negative (ratioOf m q).1 (ratioOf m q).2
    | other => other
  | other => other

/-- The integer toward zero from a finite number. -/
def truncate? : Binary64 → Option Int
  | .finite negative m q =>
    let size := (ratioOf m q).1 / (ratioOf m q).2
    some (if negative then -(size : Int) else size)
  | _ => none

/-- The integer that a number is, if it is one. -/
def toInteger? : Binary64 → Option Int
  | .finite negative m q =>
    if (ratioOf m q).1 % (ratioOf m q).2 = 0 then (Binary64.finite negative m q).truncate?
    else none
  | _ => none

/-! ## Arithmetic -/

/-- The product with a positive number; a factor that is infinite or no number wins. -/
def times : Binary64 → Binary64 → Binary64
  | .finite negative m q, .finite _ n r =>
    BinaryFormat.double.ofRatio negative ((ratioOf m q).1 * (ratioOf n r).1)
      ((ratioOf m q).2 * (ratioOf n r).2)
  | .finite .., factor => factor
  | x, _ => x

/-- The quotient by a positive number, zero for an infinite one. -/
def dividedBy : Binary64 → Binary64 → Binary64
  | .finite negative m q, .finite _ n r =>
    BinaryFormat.double.ofRatio negative ((ratioOf m q).1 * (ratioOf n r).2)
      ((ratioOf m q).2 * (ratioOf n r).1)
  | .finite negative .., .infinity _ => BinaryFormat.double.ofRatio negative 0 1
  | .finite .., divisor => divisor
  | x, _ => x

/-- The nearest integer, the even one at a tie. -/
def nearest? : Binary64 → Option Int
  | .finite negative m q =>
    let size : Int := roundHalfEven (ratioOf m q).1 (ratioOf m q).2
    some (if negative then -size else size)
  | _ => none

/-- Whether a number is zero, of either sign. -/
def isZero : Binary64 → Bool
  | .finite _ m _ => m == 0
  | _ => false

end Binary64

end SplitExport.Number
