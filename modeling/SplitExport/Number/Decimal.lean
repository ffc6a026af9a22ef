import SplitExport.Number.Binary64
import SplitExport.Number.FloatText
import SplitExport.Text.Digit

/-!
# Decimals — numbers with a decimal scale

A decimal keeps the digits and the scale that it was written with: `1.50` and `1.5` are equal in value
and differ in text.

* `readDecimal?` reads an optional sign, ASCII digits with an optional point, and an optional exponent;
* `Decimal.text` writes the digits at their scale, with an exponent when the point would stand to the
  right of the digits or more than six zeros to the left of them; `Decimal.plainText` never writes an
  exponent;
* `Decimal.truncate`, `rescale` and `toBinary64` give the integer toward zero, the number at another
  scale and the nearest floating point number.

A `SpecialDecimal` is none of these: an infinity, or a mark that there is no number.
-/

namespace SplitExport.Number

open SplitExport.Text

/-- The number `coefficient · 10^exponent`, or its opposite. -/
structure Decimal where
  negative : Bool
  coefficient : Nat
  exponent : Int
deriving DecidableEq, Repr

/-! ## Reading -/

/-- Splits ASCII digits off the front of a text. -/
def spanDigits (cs : List Char) : List Char × List Char :=
  (cs.takeWhile isAsciiDigit, cs.dropWhile isAsciiDigit)

/-- Reads an optional exponent that ends the text. -/
def readExponent? : List Char → Option Int
  | [] => some 0
  | e :: rest =>
    if e = 'e' ∨ e = 'E' then
      let (negative, digits) := match rest with
        | '-' :: ds => (true, ds)
        | '+' :: ds => (false, ds)
        | ds => (false, ds)
      if digits.isEmpty || !(digits.all isAsciiDigit) then none
      else some (if negative then -(digitsValue digits : Int) else digitsValue digits)
    else none

/-- The decimal that a text writes. -/
def readDecimal? (cs : List Char) : Option Decimal :=
  let (negative, body) := match cs with
    | '-' :: rest => (true, rest)
    | '+' :: rest => (false, rest)
    | rest => (false, rest)
  let (whole, tail) := spanDigits body
  let (fraction, tail) := match tail with
    | '.' :: rest => spanDigits rest
    | rest => ([], rest)
  if whole.isEmpty && fraction.isEmpty then none
  else
    (readExponent? tail).map fun e =>
      { negative, coefficient := digitsValue (whole ++ fraction), exponent := e - fraction.length }

namespace Decimal

/-! ## Values -/

/-- The size as a quotient of natural numbers. -/
def ratio (d : Decimal) : Nat × Nat :=
  (d.coefficient * powNum 10 d.exponent, powDen 10 d.exponent)

/-- The integer toward zero. -/
def truncate (d : Decimal) : Int :=
  let size := d.ratio.1 / d.ratio.2
  if d.negative then -(size : Int) else size

/-- The integer that a decimal is, if it is one. -/
def toInteger? (d : Decimal) : Option Int :=
  if d.ratio.1 % d.ratio.2 = 0 then some d.truncate else none

/-- The nearest floating point number. Far from the range of the format only the place of the first
    digit counts. -/
def toBinary64 (d : Decimal) : Binary64 :=
  let top : Int := d.exponent + (Nat.toDigits 10 d.coefficient).length
  if d.coefficient = 0 ∨ top < -400 then BinaryFormat.double.ofRatio d.negative 0 1
  else if 400 < top then .infinity d.negative
  else BinaryFormat.double.ofRatio d.negative d.ratio.1 d.ratio.2

/-- The decimal of an integer in units of `10^-scale`; zero has no sign. -/
def ofUnits (scale : Nat) (units : Int) : Decimal :=
  ⟨units < 0, units.natAbs, -(scale : Int)⟩

/-- The number of digits after the point. -/
def scale (d : Decimal) : Nat :=
  (-d.exponent).toNat

/-- The number in units of `10^-scale`, rounded to the nearest, the even one at a tie. -/
def units (scale : Nat) (d : Decimal) : Int :=
  let size : Int := roundHalfEven (d.ratio.1 * Nat.pow 10 scale) d.ratio.2
  if d.negative then -size else size

/-- The number with `scale` digits after the point. -/
def rescale (scale : Nat) (d : Decimal) : Decimal :=
  ofUnits scale (d.units scale)

/-! ## Text -/

/-- Digits with a point before the last `places` of them, and at least one before the point. -/
def pointed (digits : List Char) (places : Nat) : List Char :=
  if places = 0 then digits
  else
    let filled := List.replicate (places + 1 - digits.length) '0' ++ digits
    filled.take (filled.length - places) ++ '.' :: filled.drop (filled.length - places)

/-- The digits at their scale without an exponent; zero has no sign. -/
def plainText (d : Decimal) : String :=
  signed (d.negative && d.coefficient != 0)
    (pointed (Nat.toDigits 10 (d.coefficient * Nat.pow 10 d.exponent.toNat)) d.scale)

/-- The digits at their scale. -/
def text (d : Decimal) : String :=
  let digits := Nat.toDigits 10 d.coefficient
  let leading := d.exponent + digits.length
  signed d.negative <|
    if d.exponent ≤ 0 ∧ -6 < leading then pointed digits d.scale
    else
      let mantissa := match digits with
        | first :: rest@(_ :: _) => first :: '.' :: rest
        | short => short
      let e := leading - 1
      mantissa ++ 'E' :: (if e < 0 then '-' else '+') :: (natText e.natAbs).toList

end Decimal

/-- The floating point number that a text writes: a decimal, an infinity or no number. -/
def readBinary64? (s : String) : Option Binary64 :=
  let (negative, body) := match s.toList with
    | '-' :: rest => (true, rest)
    | '+' :: rest => (false, rest)
    | rest => (false, rest)
  match String.ofList (body.map Char.toLower) with
  | "nan" => some .nan
  | "inf" | "infinity" => some (.infinity negative)
  | _ => (readDecimal? s.toList).map Decimal.toBinary64

/-! ## Decimals that are no numbers -/

/-- A decimal that is no number. -/
inductive SpecialDecimal where
  | infinity (negative : Bool)
  /-- No number, perhaps one that signals; the payload is zero if there is none. -/
  | notANumber (negative signaling : Bool) (payload : Nat)
deriving DecidableEq, Repr

namespace SpecialDecimal

/-- The text of a special decimal. -/
def text : SpecialDecimal → String
  | .infinity negative => signed negative "Infinity".toList
  | .notANumber negative signaling payload =>
    signed negative <|
      (if signaling then "sNaN" else "NaN").toList ++
        if payload = 0 then [] else Nat.toDigits 10 payload

/-- Whether using the value at all is an error. -/
def isSignaling : SpecialDecimal → Bool
  | .notANumber _ signaling _ => signaling
  | .infinity _ => false

/-- The floating point number of a special decimal. -/
def toBinary64 : SpecialDecimal → Binary64
  | .infinity negative => .infinity negative
  | .notANumber .. => .nan

end SpecialDecimal

/-- The special decimal that a text writes, in any case: an optional sign, and a word for an infinity or
    for no number with an optional payload. -/
def readSpecialDecimal? (cs : List Char) : Option SpecialDecimal :=
  let (negative, body) := match cs with
    | '-' :: rest => (true, rest)
    | '+' :: rest => (false, rest)
    | rest => (false, rest)
  let payload (signaling : Bool) (digits : List Char) : Option SpecialDecimal :=
    if digits.all isAsciiDigit then some (.notANumber negative signaling (digitsValue digits)) else none
  match body.map Char.toLower with
  | ['i', 'n', 'f'] | ['i', 'n', 'f', 'i', 'n', 'i', 't', 'y'] => some (.infinity negative)
  | 'n' :: 'a' :: 'n' :: digits => payload false digits
  | 's' :: 'n' :: 'a' :: 'n' :: digits => payload true digits
  | _ => none

end SplitExport.Number
