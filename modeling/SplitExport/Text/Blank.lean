/-!
# Blanks — the white space of every script, and trimming

* `isBlank` recognises the characters with the white space property, and the four ASCII separators
  U+001C to U+001F; the zero width characters are not among them;
* `trimLeft`, `trimRight` and `trim` remove blanks at the ends; `dropRightWhile` removes any class of
  characters from the right.
-/

namespace SplitExport.Text

/-! ## The class -/

/-- White space of any script. -/
def isBlank (c : Char) : Bool :=
  let n := c.toNat
  (9 ≤ n && n ≤ 13) || (0x1c ≤ n && n ≤ 0x20) || n == 0x85 || n == 0xa0 || n == 0x1680 ||
    (0x2000 ≤ n && n ≤ 0x200a) || n == 0x2028 || n == 0x2029 || n == 0x202f || n == 0x205f ||
    n == 0x3000

/-! ## Trimming -/

/-- A list without its longest suffix of elements in a class. -/
def dropRightWhile {α : Type} (p : α → Bool) (xs : List α) : List α :=
  (xs.reverse.dropWhile p).reverse

/-- A text without its leading blanks. -/
def trimLeft (cs : List Char) : List Char :=
  cs.dropWhile isBlank

/-- A text without its trailing blanks. -/
def trimRight (cs : List Char) : List Char :=
  dropRightWhile isBlank cs

/-- A text without the blanks at either end. -/
def trim (cs : List Char) : List Char :=
  trimRight (trimLeft cs)

end SplitExport.Text
