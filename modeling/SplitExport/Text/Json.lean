import SplitExport.Text.Quoted

/-!
# JSON in ASCII — strings and arrays of strings

* `jsonString` writes a string: the quote, the backslash and five control characters have short
  escapes; every other character outside printable ASCII is written as `\uhhhh`, a character above
  U+FFFF as the two halves of its surrogate pair.
* `jsonArray` writes one string a line, indented by two blanks.
-/

namespace SplitExport.Text

/-- One unit of sixteen bits, escaped. -/
def jsonUnit (n : Nat) : List Char :=
  '\\' :: 'u' :: hexDigits 4 n

/-- What stands for one character in a JSON string. -/
def jsonChar (c : Char) : List Char :=
  if c = '"' ∨ c = '\\' then ['\\', c]
  else if c = '\n' then ['\\', 'n']
  else if c = '\r' then ['\\', 'r']
  else if c = '\t' then ['\\', 't']
  else if c.toNat = 0x08 then ['\\', 'b']
  else if c.toNat = 0x0c then ['\\', 'f']
  else if 0x20 ≤ c.toNat ∧ c.toNat < 0x7f then [c]
  else if c.toNat ≤ 0xffff then jsonUnit c.toNat
  else
    let offset := c.toNat - 0x10000
    jsonUnit (0xd800 + offset / 0x400) ++ jsonUnit (0xdc00 + offset % 0x400)

/-- A string between double quotes. -/
def jsonString (s : String) : String :=
  String.ofList ('"' :: s.toList.flatMap jsonChar ++ ['"'])

/-- An array of strings, an element a line. -/
def jsonArray : List String → String
  | [] => "[]"
  | items => "[\n" ++ ",\n".intercalate (items.map fun s => "  " ++ jsonString s) ++ "\n]"

end SplitExport.Text
