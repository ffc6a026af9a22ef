import SplitExport.Number.Binary64
import SplitExport.Text.Digit

/-!
# Floating point text — the shortest decimal that reads back, and fixed places

* `shortestDigits` finds the decimal of fewest digits that rounds to a number: for one digit, two
  digits, and so on it tries the two neighbours of the number on that decimal grid.
* `Binary64.text` writes it positionally from `10^-4` up to `10^16`, with an exponent of at least two
  digits elsewhere, and always with a point or an exponent.
* `Binary64.pointedText` writes the same digits positionally from `10^-5` up to `10^16`, with a bare
  exponent elsewhere.
* `Binary64.plainText` writes the same digits positionally, and a point only before a fraction.
* `Binary64.fixedText` writes a given number of places, a half going to the even neighbour of the
  exact binary value.
* `Binary64.labelText` keeps to few characters: one place for small whole numbers, at most six places
  or five digits for numbers whose plain text is long.
-/

namespace SplitExport.Number

open SplitExport.Text

/-! ## Decimal grids -/

/-- The greatest `e` with `10^e ≤ num / den`, searched downward from `e` for at most `fuel` steps. -/
def floorLog10From (num den : Nat) : Nat → Int → Int
  | 0, e => e
  | fuel + 1, e =>
    if den * powNum 10 e ≤ num * powDen 10 e then e else floorLog10From num den fuel (e - 1)

/-- The greatest `e` with `10^e ≤ num / den`, for positive `num` and `den`: the decimal exponent is at
    most a third of the binary one, rounded up, and at least three tenths of it, rounded down. -/
def floorLog10 (num den : Nat) : Int :=
  let e := floorLog2 num den
  let start := if e < 0 then e * 3 / 10 + 1 else e / 3 + 1
  floorLog10From num den (e.natAbs + 3) start

/-- A number between its two rounding limits: the value is `value · 2^unit`, and the numbers from
    `low · 2^unit` to `high · 2^unit` round to it, the limits themselves iff `closed`. -/
structure RoundingInterval where
  low : Nat
  value : Nat
  high : Nat
  unit : Int
  closed : Bool

/-- The reals that round to `m · 2^q` in the format with 53 bits; the gap below a power of two is half
    the gap above it. -/
def roundingInterval (m : Nat) (q : Int) : RoundingInterval :=
  let narrowBelow := m = Nat.pow 2 52 ∧ BinaryFormat.double.minExponent < q
  { low := if narrowBelow then 4 * m - 1 else 4 * m - 2
    value := 4 * m
    high := 4 * m + 2
    unit := q - 2
    closed := m % 2 = 0 }

/-- Whether the decimal `d · 10^p` lies in the interval. -/
def RoundingInterval.holds (r : RoundingInterval) (d : Nat) (p : Int) : Bool :=
  let left := d * powNum 10 p * powDen 2 r.unit
  let scale := powDen 10 p * powNum 2 r.unit
  if r.closed then r.low * scale ≤ left && left ≤ r.high * scale
  else r.low * scale < left && left < r.high * scale

/-- The nearer to the value of its neighbours `d` and `d + 1` on the grid of `10^p`: the lower one if
    twice the value is below their sum, the even one at a tie. -/
def RoundingInterval.lowerIsNearer (r : RoundingInterval) (d : Nat) (p : Int) : Bool :=
  let sum := (2 * d + 1) * powNum 10 p * powDen 2 r.unit
  let scale := powDen 10 p * powNum 2 r.unit
  let twice := 2 * r.value * scale
  twice < sum || (twice == sum && d % 2 == 0)

/-- The first grid, from `count` digits on, that has a decimal in the interval, with that decimal;
    `top` is the decimal exponent of the value `num / den`. -/
def shortestFrom (r : RoundingInterval) (num den : Nat) (top : Int) : Nat → Nat → Nat × Int
  | 0, count =>
    let p := top + 1 - count
    (num * powDen 10 p / (den * powNum 10 p), p)
  | fuel + 1, count =>
    let p := top + 1 - count
    let d := num * powDen 10 p / (den * powNum 10 p)
    match r.holds d p, r.holds (d + 1) p with
    | true, true => (if r.lowerIsNearer d p then d else d + 1, p)
    | true, false => (d, p)
    | false, true => (d + 1, p)
    | false, false => shortestFrom r num den top fuel (count + 1)

/-- The decimal `d · 10^p` of fewest digits that rounds to `m · 2^q`, for positive `m`. -/
def shortestDigits (m : Nat) (q : Int) : Nat × Int :=
  let (num, den) := Binary64.ratioOf m q
  shortestFrom (roundingInterval m q) num den (floorLog10 num den) 17 1

/-! ## Texts -/

/-- The digits of `d` with the point after the first `before` of them, filled up with zeros, and at
    least one digit on either side of the point. -/
def positional (digits : List Char) (before : Int) : List Char :=
  if before ≤ 0 then '0' :: '.' :: List.replicate (-before).toNat '0' ++ digits
  else
    let n := before.toNat
    if digits.length ≤ n then digits ++ List.replicate (n - digits.length) '0' ++ ['.', '0']
    else digits.take n ++ '.' :: digits.drop n

/-- The digits with the point after the first, if more follow. -/
def mantissa : List Char → List Char
  | d :: rest@(_ :: _) => d :: '.' :: rest
  | short => short

/-- The digits with the point after the first, and the exponent that makes up for it, with its sign and
    at least two digits. -/
def scientific (digits : List Char) (before : Int) : List Char :=
  let e := before - 1
  mantissa digits ++ 'e' :: (if e < 0 then '-' else '+') :: (paddedNat 2 e.natAbs).toList

/-- The digits with the point after the first, and the exponent that makes up for it, as short as it
    can be written. -/
def bareScientific (digits : List Char) (before : Int) : List Char :=
  mantissa digits ++ 'e' :: (intText (before - 1)).toList

/-- The sign of a text. -/
def signed (negative : Bool) (cs : List Char) : String :=
  String.ofList (if negative then '-' :: cs else cs)

namespace Binary64

/-- The shortest digits that read back, without zeros at their end, and how many of them stand before
    the point. -/
def shortestMantissa (m : Nat) (q : Int) : List Char × Int :=
  let (d, p) := shortestDigits m q
  let digits := Nat.toDigits 10 d
  ((digits.reverse.dropWhile (· == '0')).reverse, digits.length + p)

/-- The shortest text that reads back. -/
def text : Binary64 → String
  | .nan => "nan"
  | .infinity negative => signed negative "inf".toList
  | .finite negative 0 _ => signed negative "0.0".toList
  | .finite negative m q =>
    let (digits, before) := shortestMantissa m q
    signed negative <|
      if -4 < before ∧ before ≤ 16 then positional digits before else scientific digits before

/-- The shortest text that reads back, with a bare exponent for numbers far from one. -/
def pointedText : Binary64 → String
  | .nan => "NaN"
  | .infinity negative => signed negative "inf".toList
  | .finite negative 0 _ => signed negative "0.0".toList
  | .finite negative m q =>
    let (digits, before) := shortestMantissa m q
    signed negative <|
      if -5 < before ∧ before ≤ 16 then positional digits before else bareScientific digits before

/-- The shortest digits that read back, without an exponent. -/
def plainText : Binary64 → String
  | .nan => "NaN"
  | .infinity negative => signed negative "inf".toList
  | .finite negative 0 _ => signed negative ['0']
  | .finite negative m q =>
    let (digits, before) := shortestMantissa m q
    signed negative <|
      if digits.length ≤ before then digits ++ List.replicate (before.toNat - digits.length) '0'
      else positional digits before

/-- The text with `places` digits after the point. -/
def fixedText (places : Nat) : Binary64 → String
  | .nan => "nan"
  | .infinity negative => signed negative "inf".toList
  | .finite negative m q =>
    let (num, den) := ratioOf m q
    let whole := Nat.pow 10 places
    let units := roundHalfEven (num * whole) den
    let fraction := if places = 0 then "" else "." ++ paddedNat places (units % whole)
    signed negative (natText (units / whole) ++ fraction).toList

/-- The first `count` digits of the positive number `num / den`, a half going to the even neighbour, and
    how many of them stand before the point. -/
def leadingDigits (count num den : Nat) : List Char × Int :=
  let top := floorLog10 num den
  let p := top + 1 - count
  let digits := Nat.toDigits 10 (roundHalfEven (num * powDen 10 p) (den * powNum 10 p))
  (digits.take count, p + digits.length)

/-- The places without the zeros at their end, but at least one. -/
def trimPlaces (cs : List Char) : List Char :=
  let kept := (cs.reverse.dropWhile (· == '0')).reverse
  if kept.getLast? = some '.' then kept ++ ['0'] else kept

/-- The text of a number in a label. A whole number has one place below a million, and the bare exponent
    from there on. A number whose plain text is longer than nine characters has six places, less the
    zeros at their end, from a millionth to a million, and five digits with an exponent elsewhere. -/
def labelText (x : Binary64) : String :=
  match x with
  | .nan | .infinity _ | .finite _ 0 _ => x.pointedText
  | .finite negative m q =>
    let (num, den) := ratioOf m q
    let plain := x.plainText
    if num % den = 0 ∧ num < 1000000 * den then x.text
    else if plain.length ≤ 9 then
      if num % den = 0 then
        let (digits, before) := shortestMantissa m q
        signed negative (bareScientific digits before)
      else plain
    else if den ≤ num * 1000000 ∧ num ≤ 999999 * den then
      String.ofList (trimPlaces (x.fixedText 6).toList)
    else
      let (digits, before) := leadingDigits 5 num den
      signed negative (bareScientific digits before)

end Binary64

end SplitExport.Number
