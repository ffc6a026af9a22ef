import SplitExport.Text.Names.Aliases
import SplitExport.Text.Names.Ancient
import SplitExport.Text.Names.Europe
import SplitExport.Text.Names.Forms
import SplitExport.Text.Names.India
import SplitExport.Text.Names.Inland
import SplitExport.Text.Names.Levant
import SplitExport.Text.Names.Orient
import SplitExport.Text.Names.Pictures
import SplitExport.Text.Names.Recent
import SplitExport.Text.Names.Signs
import SplitExport.Text.Names.Wedges
import SplitExport.Text.Quoted

/-!
# Names of characters — from a name to a code point

* Most characters are listed with their names (Unicode 14). A list is a row of entries between commas or
  line ends. An entry begins with the code point, in hexadecimal digits with a colon behind them, unless
  the code point follows the one before; then come a digit and a text: the name has as many of the pieces
  of the name before as the digit says, and goes on with the text. Pieces end with blanks and hyphens.
* Ideographs are named by their code points, and Hangul syllables by their sounds.
* `codeNamed?` looks a name up; small letters count as capitals, except in names made by rule.
-/

namespace SplitExport.Text.Names

/-! ## Lists -/

/-- The pieces of a name; `piece` is the beginning of the first one, its last character first. -/
def piecesFrom (piece : List Char) : List Char → List (List Char)
  | [] => if piece.isEmpty then [] else [piece.reverse]
  | c :: rest =>
    if c = ' ' ∨ c = '-' then (c :: piece).reverse :: piecesFrom [] rest
    else piecesFrom (c :: piece) rest

/-- The entries of a list; `entry` is the beginning of the first one, its last character first. -/
def entriesFrom (entry : List Char) : List Char → List (List Char)
  | [] => [entry.reverse]
  | c :: rest =>
    if c = ',' ∨ c = '\n' then entry.reverse :: entriesFrom [] rest
    else entriesFrom (c :: entry) rest

/-- The value of a hexadecimal digit. -/
def hexValue? (c : Char) : Option Nat :=
  (List.range 16).find? fun n => hexDigit n == c.toLower

/-- The number that digits of a base write. -/
def numberOf (base : Nat) (digits : List Char) : Nat :=
  digits.foldl (fun number c => number * base + (hexValue? c).getD 0) 0

/-- A code point and the pieces of its name. -/
structure Named where
  code : Nat := 0
  pieces : List (List Char) := []

/-- What an entry stands for behind another. -/
def Named.next (previous : Named) (entry : List Char) : Named :=
  let digits := entry.takeWhile (· != ':')
  let (code, named) :=
    if digits.length < entry.length then (numberOf 16 digits, entry.drop (digits.length + 1))
    else (previous.code + 1, entry)
  match named with
  | [] => { previous with code }
  | kept :: text =>
    ⟨code, previous.pieces.take (kept.toNat - '0'.toNat) ++ piecesFrom [] text⟩

/-- The code point of a name in entries behind a first one. -/
def findIn (name : List Char) (previous : Named) : List (List Char) → Option Nat
  | [] => none
  | entry :: rest =>
    let here := previous.next entry
    if here.pieces.flatten = name then some here.code else findIn name here rest

/-- All lists. -/
def lists : List String :=
  [europe, levant, india, inland, signs, orient, forms, ancient, wedges, recent, pictures, aliases]

/-- The code point with a listed name. -/
def listed? (name : List Char) : Option Nat :=
  lists.findSome? fun list => findIn name {} (entriesFrom [] list.toList)

/-! ## Names by rule -/

/-- Closed intervals of the code points of ideographs. -/
def ideographs : List (Nat × Nat) :=
  [(0x3400, 0x4dbf), (0x4e00, 0x9fff), (0x20000, 0x2a6df), (0x2a700, 0x2b738), (0x2b740, 0x2b81d),
    (0x2b820, 0x2cea1), (0x2ceb0, 0x2ebe0), (0x30000, 0x3134a)]

/-- The code point of an ideograph that some capital hexadecimal digits name. -/
def ideograph? (digits : List Char) : Option Nat :=
  let code := numberOf 16 digits
  if (digits.length = 4 ∨ digits.length = 5) ∧
      digits.all (fun c => (hexValue? c).isSome && c.toUpper == c) ∧
      ideographs.any (fun r => r.1 ≤ code && code ≤ r.2) then some code
  else none

/-- The sounds that a Hangul syllable begins with. -/
def leadingSounds : List String :=
  ["G", "GG", "N", "D", "DD", "R", "M", "B", "BB", "S", "SS", "", "J", "JJ", "C", "K", "T", "P", "H"]

/-- The sounds in the middle of a Hangul syllable. -/
def vowelSounds : List String :=
  ["A", "AE", "YA", "YAE", "EO", "E", "YEO", "YE", "O", "WA", "WAE", "OE", "YO", "U", "WEO", "WE", "WI",
    "YU", "EU", "YI", "I"]

/-- The sounds that a Hangul syllable ends with. -/
def trailingSounds : List String :=
  ["", "G", "GG", "GS", "N", "NJ", "NH", "D", "L", "LG", "LM", "LB", "LS", "LT", "LP", "LH", "M", "B",
    "BS", "S", "SS", "NG", "J", "C", "K", "T", "P", "H"]

/-- The sounds of all Hangul syllables in the order of their code points. -/
def syllables : List String :=
  leadingSounds.flatMap fun first => vowelSounds.flatMap fun middle =>
    trailingSounds.map fun last => first ++ middle ++ last

/-- The code point of a Hangul syllable with some sounds. -/
def syllable? (sounds : List Char) : Option Nat :=
  (syllables.findIdx? (· == String.ofList sounds)).map (0xac00 + ·)

/-! ## All names -/

/-- The text behind a front that another text begins with. -/
def behind? (front : String) (cs : List Char) : Option (List Char) :=
  if front.toList.isPrefixOf cs then some (cs.drop front.length) else none

/-- The code point of the character with a name. -/
def codeNamed? (name : String) : Option Nat :=
  let cs := name.toList
  match behind? "HANGUL SYLLABLE " cs, behind? "CJK UNIFIED IDEOGRAPH-" cs with
  | some sounds, _ => syllable? sounds
  | none, some digits => ideograph? digits
  | none, none => listed? (cs.map Char.toUpper)

end SplitExport.Text.Names
