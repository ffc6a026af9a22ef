import SplitExport.Text.Digit
import SplitExport.Text.Printable

/-!
# Quoted text — a string between quotes, with everything invisible escaped

A quoted text stands in an error message where the reader must see exactly which string was meant.

* The quote is `'`, or `"` for a text that holds `'` and no `"`.
* The backslash, the chosen quote, line feed, carriage return and tab have two-character escapes.
* Other characters that are not printable are written by their code point, in the shortest of the
  forms `\xhh`, `\uhhhh` and `\Uhhhhhhhh`; octets of a byte string always as `\xhh`.
-/

namespace SplitExport.Text

/-! ## Hexadecimal -/

/-- The lower-case hexadecimal digit of a value below sixteen. -/
def hexDigit (n : Nat) : Char :=
  if n < 10 then Char.ofNat ('0'.toNat + n) else Char.ofNat ('a'.toNat + (n - 10))

/-- The last `width` hexadecimal digits of a number, the most significant first. -/
def hexDigits : Nat → Nat → List Char
  | 0, _ => []
  | width + 1, n => hexDigits width (n / 16) ++ [hexDigit (n % 16)]

/-! ## Escapes -/

/-- The escape of a code point by number, in the shortest form that holds it. -/
def numericEscape (n : Nat) : List Char :=
  if n ≤ 0xff then '\\' :: 'x' :: hexDigits 2 n
  else if n ≤ 0xffff then '\\' :: 'u' :: hexDigits 4 n
  else '\\' :: 'U' :: hexDigits 8 n

/-- What stands for one character between two quotes `quote`. -/
def escapeChar (quote c : Char) : List Char :=
  if c = '\\' ∨ c = quote then ['\\', c]
  else if c = '\n' then ['\\', 'n']
  else if c = '\r' then ['\\', 'r']
  else if c = '\t' then ['\\', 't']
  else if isPrintable c then [c]
  else numericEscape c.toNat

/-- The quote that surrounds a text. -/
def quoteFor (cs : List Char) : Char :=
  if '\'' ∈ cs ∧ '"' ∉ cs then '"' else '\''

/-! ## Quoted text -/

/-- A text between quotes. -/
def quoteChars (cs : List Char) : List Char :=
  quoteFor cs :: cs.flatMap (escapeChar (quoteFor cs)) ++ [quoteFor cs]

/-- A string between quotes. -/
def quoted (s : String) : String :=
  String.ofList (quoteChars s.toList)

/-- What stands for one octet between two quotes `quote`. -/
def escapeOctet (quote : Char) (octet : UInt8) : List Char :=
  let n := octet.toNat
  if 0x20 ≤ n ∧ n < 0x7f ∨ n = 9 ∨ n = 10 ∨ n = 13 then escapeChar quote (Char.ofNat n)
  else numericEscape n

/-- A byte string between quotes, marked by a leading `b`. -/
def quotedOctets (octets : List UInt8) : String :=
  let quote := quoteFor (octets.map fun o => Char.ofNat o.toNat)
  String.ofList ('b' :: quote :: octets.flatMap (escapeOctet quote) ++ [quote])

end SplitExport.Text
