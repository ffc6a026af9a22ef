import SplitExport.Text.Blank
import SplitExport.Text.Digit
import SplitExport.Text.Quoted

/-!
# Integers as text — signs, blanks, grouping and the digit limit

An integer is written as an optional sign and decimal digits of any scripts, with single underscores
between digits and blanks around the whole.

* `readInteger` reads such a text and gives the cause of a failure;
* a well-grouped run of more than `digitLimit` digits is refused before what follows it is looked at,
  and `isWritable` tells which integers are not refused when they are written;
* the blanks that may surround an integer are those above ASCII and the six of ASCII proper: the
  separators U+001C to U+001F do not count.
-/

namespace SplitExport.Number

open SplitExport.Text

/-! ## Causes -/

/-- The longest run of digits that is read or written. -/
def digitLimit : Nat := 4300

/-- Why a text is no integer. -/
inductive IntegerError where
  /-- The text has another form. -/
  | malformed (source : String)
  /-- The text has more digits than the limit. -/
  | tooLong (digits : Nat)
deriving DecidableEq, Repr

/-- A malformed text is shown in quotes, as far as its first 200 characters. -/
def IntegerError.message : IntegerError → String
  | .malformed shown =>
    "invalid literal for int() with base 10: " ++ String.ofList (shown.toList.take 200)
  | .tooLong digits =>
    "Exceeds the limit (" ++ natText digitLimit ++ " digits) for integer string conversion: value has " ++
      natText digits ++ " digits; use sys.set_int_max_str_digits() to increase the limit"

/-- An integer has more digits than are written. -/
structure OversizeInteger where
deriving DecidableEq, Repr

/-- The cause in words. -/
def OversizeInteger.message (_ : OversizeInteger) : String :=
  "Exceeds the limit (" ++ natText digitLimit ++ " digits) for integer string conversion; " ++
    "use sys.set_int_max_str_digits() to increase the limit"

/-- Whether an integer is written: its digits are no more than the limit. -/
def isWritable (i : Int) : Bool :=
  i.natAbs < Nat.pow 10 digitLimit

/-- A text if the integers in it are written, and else the refusal to write one. -/
def ifWritten (written : Bool) (text : String) : String :=
  if written then text else OversizeInteger.message {}

/-! ## Reading -/

/-- The blanks that may surround an integer. -/
def isMargin (c : Char) : Bool :=
  isBlank c && !(0x1c ≤ c.toNat && c.toNat ≤ 0x1f)

/-- Whether underscores stand only between digits, in a text of digits and underscores;
    `afterDigit` tells whether a digit stands before it. -/
def groupsDigits : Bool → List Char → Bool
  | afterDigit, [] => afterDigit
  | afterDigit, c :: rest =>
    if c = '_' then afterDigit && groupsDigits false rest else groupsDigits true rest

/-- A sign at the front of a text, `true` for minus, and what follows. -/
def takeSign : List Char → Bool × List Char
  | '-' :: rest => (true, rest)
  | '+' :: rest => (false, rest)
  | cs => (false, cs)

/-- The integer a text writes; `shown` is the text as a failure quotes it. -/
def readIntegerShown (shown : String) (cs : List Char) : Except IntegerError Int :=
  let (negative, body) := takeSign (cs.dropWhile isMargin)
  let run := body.takeWhile fun c => isDigit c || c == '_'
  let tail := body.dropWhile fun c => isDigit c || c == '_'
  let digits := run.filter isDigit
  if !(groupsDigits false run) then .error (.malformed shown)
  else if digits.length > digitLimit then .error (.tooLong digits.length)
  else if !(tail.all isMargin) then .error (.malformed shown)
  else
    let value := digitsValue digits
    .ok (if negative then -(value : Int) else value)

/-- The integer a string writes. -/
def readInteger (s : String) : Except IntegerError Int :=
  readIntegerShown (quoted s) s.toList

end SplitExport.Number
