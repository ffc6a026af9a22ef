import SplitExport.Pattern.Case
import SplitExport.Text.Blank
import SplitExport.Text.Letter

/-!
# Patterns — sets of texts, described by what they are made of

* `CharTest` describes a set of characters; case may count in it or not (`Casing`).
* `Place` describes places in a text: its ends, the ends of its lines, and the edges of words.
* `Pattern` puts characters and places together: in sequences, choices and repetitions, in groups whose
  texts can be referred to, and in looks at what stands ahead or behind.
-/

namespace SplitExport

open SplitExport.Text

/-! ## Characters -/

/-- A kind of characters that has a name. -/
inductive CharKind where
  | digit
  | blank
  | word
deriving DecidableEq, Repr

/-- Whether a character is of a kind, among all characters or those of ASCII alone. -/
def CharKind.holds (asciiOnly : Bool) : CharKind → Char → Bool
  | .digit, c => if asciiOnly then isAsciiDigit c else isDigit c
  | .blank, c => if asciiOnly then c == ' ' || (9 ≤ c.toNat && c.toNat ≤ 13) else isBlank c
  | .word, c =>
    if asciiOnly then isAsciiLetter c || isAsciiDigit c || c == '_' else isWordChar c

/-- A member of a set of characters, by code points. -/
inductive CharRule where
  | one (code : Nat)
  /-- All characters from one to another. -/
  | range (first last : Nat)
  | named (kind : CharKind) (inverted : Bool)
deriving DecidableEq, Repr

/-- The last code point of the plane in which the letters of a set are compared by their small letters. -/
def planeEnd : Nat := 0xffff

/-- Whether a rule takes in a code point that was folded as case demands. Where case does not count,
    single code points beyond the plane stand for themselves, and the ends of ranges beyond it are compared
    with the capital, too. -/
def CharRule.holds (casing : Casing) (asciiOnly : Bool) (folded : Nat) : CharRule → Bool
  | .one code =>
    if casing = .exact ∨ planeEnd < code then folded == code
    else (casing.same (casing.fold code)).contains folded
  | .range first last =>
    if casing = .exact then first ≤ folded && folded ≤ last
    else
      (casing.same folded).any (fun small => (casing.sources small).any fun code =>
        first ≤ code && code ≤ min last planeEnd) ||
      (planeEnd < last && ((first ≤ folded && folded ≤ last) ||
        (first ≤ capitalCode folded && capitalCode folded ≤ last)))
  | .named kind inverted => kind.holds asciiOnly (Char.ofNat folded) != inverted

/-- A set of characters. -/
inductive CharTest where
  /-- The characters that count as the same as a given one, or all others. -/
  | one (code : Nat) (casing : Casing) (negated : Bool)
  | any
  /-- Everything that does not end a line. -/
  | inLine
  | set (rules : List CharRule) (casing : Casing) (asciiOnly negated : Bool)
deriving DecidableEq, Repr

/-- Whether a character is in a set. -/
def CharTest.holds : CharTest → Char → Bool
  | .one code casing negated, c =>
    (casing.same (casing.fold code)).contains (casing.fold c.toNat) != negated
  | .any, _ => true
  | .inLine, c => c != '\n'
  | .set rules casing asciiOnly negated, c =>
    rules.any (·.holds casing asciiOnly (casing.fold c.toNat)) != negated

/-! ## Places -/

/-- A kind of places in a text. -/
inductive Place where
  | start
  | lineStart
  /-- The end of a text, or in front of a line end there. -/
  | finish
  | lineFinish
  /-- The very end of a text. -/
  | stop
  /-- The edge of a word, or any other place. -/
  | edge (asciiOnly ofWord : Bool)
deriving DecidableEq, Repr

/-- Whether a place is of a kind; a text without characters has neither edges nor other places. -/
def Place.holds (text : Array Char) (i : Nat) : Place → Bool
  | .start => i == 0
  | .lineStart => i == 0 || text[i - 1]? == some '\n'
  | .finish => i == text.size || (i + 1 == text.size && text[i]? == some '\n')
  | .lineFinish => i == text.size || text[i]? == some '\n'
  | .stop => i == text.size
  | .edge asciiOnly ofWord =>
    let inWord (c : Option Char) : Bool := c.any (CharKind.word.holds asciiOnly)
    let behind := if i = 0 then none else text[i - 1]?
    text.size != 0 && (inWord behind != inWord text[i]?) == ofWord

/-! ## Patterns -/

/-- How a repetition goes on. -/
inductive Manner where
  /-- As often as possible, and less often if the rest does not fit. -/
  | greedy
  /-- As seldom as possible, and more often if the rest does not fit. -/
  | lazy
  /-- As often as possible, whether the rest fits or not. -/
  | possessive
deriving DecidableEq, Repr

/-- A set of texts. -/
inductive Pattern where
  | empty
  | char (test : CharTest)
  | place (place : Place)
  | sequence (p q : Pattern)
  /-- The second one is for where the first one does not fit. -/
  | choice (p q : Pattern)
  | repeated (manner : Manner) (least : Nat) (most : Option Nat) (p : Pattern)
  /-- A part whose text can be referred to by a number. -/
  | group (number : Nat) (p : Pattern)
  /-- The text of a group once more. -/
  | reference (number : Nat) (casing : Casing)
  /-- A part that fits in the first way that it can, whether the rest fits or not. -/
  | atomic (p : Pattern)
  /-- A look at what stands ahead, from a number of characters back, without going there. -/
  | look (back : Nat) (wanted : Bool) (p : Pattern)
  /-- One pattern where a group has a text, another where it has none. -/
  | conditional (number : Nat) (yes no : Pattern)
deriving DecidableEq, Repr

namespace Pattern

/-- Patterns behind one another. -/
def allOf : List Pattern → Pattern
  | [] => .empty
  | [p] => p
  | p :: rest => .sequence p (allOf rest)

end Pattern

end SplitExport
