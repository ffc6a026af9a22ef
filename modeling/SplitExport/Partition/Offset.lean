import SplitExport.Text.Digit

/-!
# Offsets — amounts of calendar and clock units, read into sums

* `Offset` is the sum of the components: years and quarters count as months, and the units of a clock
  as nanoseconds.
* `readOffset` reads an optional sign and one component after the other, each ASCII digits with the
  letters of a unit behind them. A minus sign stands for the offset as a whole.
-/

namespace SplitExport.Partition

open SplitExport.Text

/-- Months, weeks, days and nanoseconds to move by, all of them in one direction. -/
structure Offset where
  backward : Bool := false
  months : Nat := 0
  weeks : Nat := 0
  days : Nat := 0
  nanoseconds : Nat := 0
deriving DecidableEq, Repr

namespace Offset

/-- The components of two offsets together, in the direction of the second. -/
def add (a b : Offset) : Offset :=
  ⟨b.backward, a.months + b.months, a.weeks + b.weeks, a.days + b.days, a.nanoseconds + b.nanoseconds⟩

instance : Add Offset := ⟨add⟩

/-- An amount of one unit; an amount of index positions counts as nanoseconds. -/
def ofUnit? (amount : Nat) : String → Option Offset
  | "d" => some { days := amount }
  | "w" => some { weeks := amount }
  | "mo" => some { months := amount }
  | "q" => some { months := 3 * amount }
  | "y" => some { months := 12 * amount }
  | "h" => some { nanoseconds := 3600000000000 * amount }
  | "m" => some { nanoseconds := 60000000000 * amount }
  | "s" => some { nanoseconds := 1000000000 * amount }
  | "ms" => some { nanoseconds := 1000000 * amount }
  | "us" => some { nanoseconds := 1000 * amount }
  | "ns" | "i" => some { nanoseconds := amount }
  | _ => none

end Offset

/-! ## Causes -/

/-- Why a text is no offset. -/
inductive OffsetError where
  /-- There is more than one minus sign. -/
  | severalSigns
  /-- A minus sign stands behind the front. -/
  | innerSign
  /-- No amount stands before a character. -/
  | noAmount (found : Char)
  /-- No unit stands behind an amount. -/
  | noUnit (source : String)
  /-- There is no such unit. -/
  | unknownUnit (unit : String)
deriving DecidableEq, Repr

/-- The cause in words. -/
def OffsetError.message : OffsetError → String
  | .severalSigns => "duration string can only have a single minus sign"
  | .innerSign => "only a single minus sign is allowed, at the front of the string"
  | .noAmount found =>
    "expected leading integer in the duration string, found " ++ String.ofList [found]
  | .noUnit source =>
    "expected a unit to follow integer in the duration string '" ++ source ++ "'"
  | .unknownUnit unit =>
    "unit: '" ++ unit ++ "' not supported; available units are: 'y', 'mo', 'q', 'w', 'd', 'h', 'm', " ++
      "'s', 'ms', 'us', 'ns'"

/-! ## Reading -/

/-- Reads components up to the end of a text. -/
def readComponents (source : String) : List Char → Except OffsetError Offset
  | [] => .ok {}
  | c :: cs =>
    if !isAsciiDigit c then .error (.noAmount c)
    else
      let rest := cs.dropWhile isAsciiDigit
      let unit := rest.takeWhile isAsciiLetter
      if unit.isEmpty then .error (.noUnit source)
      else
        match Offset.ofUnit? (digitsValue (c :: cs.takeWhile isAsciiDigit)) (String.ofList unit) with
        | none => .error (.unknownUnit (String.ofList unit))
        | some first => (readComponents source (rest.dropWhile isAsciiLetter)).map (first + ·)
termination_by cs => cs.length
decreasing_by
  have hunit : ((cs.dropWhile isAsciiDigit).dropWhile isAsciiLetter).length ≤
      (cs.dropWhile isAsciiDigit).length := (List.dropWhile_sublist _).length_le
  have hdigits : (cs.dropWhile isAsciiDigit).length ≤ cs.length := (List.dropWhile_sublist _).length_le
  rw [List.length_cons]
  omega

/-- Reads an offset. -/
def readOffset (source : String) : Except OffsetError Offset :=
  let cs := source.toList
  if 1 < cs.count '-' then .error .severalSigns
  else
    match cs with
    | '-' :: rest => (readComponents source rest).map ({ · with backward := true })
    | _ =>
      if cs.contains '-' then .error .innerSign
      else readComponents source (if cs.head? = some '+' then cs.drop 1 else cs)

end SplitExport.Partition
