import SplitExport.Number.Integer
import SplitExport.Text.Quoted

/-!
# Pattern defects — why a text is no pattern

Most defects have a position (`PatternDefect`); in a text of more than one line the line and the column
are named, too. Counts that are too large, groups that stand too deep in one another, and looks behind whose
length is not known are reported without a position (`PatternError`).
-/

namespace SplitExport

open SplitExport.Number SplitExport.Text

/-! ## Defects -/

/-- What is wrong at a position. -/
inductive PatternDefect where
  | endOfPattern
  | nothingToRepeat
  | multipleRepeat
  | repeatOrder
  | openGroup
  | strayClose
  | openComment
  | openSet
  | badRange (first last : String)
  | badEscape (name : String)
  | incompleteEscape (source : String)
  | octalTooLarge (source : String)
  | braceMissing
  | unknownCharName (name : String)
  | nameMissing (what : String)
  | openName (terminator : Char)
  | badGroupName (name : String)
  | unknownGroupName (name : String)
  | repeatedGroupName (name : String) (number before : Nat)
  | badGroupNumber
  | invalidReference (number : Nat)
  | openReference
  | referenceInLookBehind
  | tooManyChoices
  | unknownExtension (name : String)
  | lateFlags
  | localeFlag
  | clashingFlags
  | unknownFlag
  | flagsOpen
  | flagMissing
  | colonMissing
  | flagNeverOn
  | flagNeverOff
  | typeFlagOff
  | flagOnAndOff
deriving DecidableEq, Repr

/-- A defect in words. -/
def PatternDefect.text : PatternDefect → String
  | .endOfPattern => "unexpected end of pattern"
  | .nothingToRepeat => "nothing to repeat"
  | .multipleRepeat => "multiple repeat"
  | .repeatOrder => "min repeat greater than max repeat"
  | .openGroup => "missing ), unterminated subpattern"
  | .strayClose => "unbalanced parenthesis"
  | .openComment => "missing ), unterminated comment"
  | .openSet => "unterminated character set"
  | .badRange first last => "bad character range " ++ first ++ "-" ++ last
  | .badEscape name => "bad escape " ++ name
  | .incompleteEscape source => "incomplete escape " ++ source
  | .octalTooLarge source => "octal escape value " ++ source ++ " outside of range 0-0o377"
  | .braceMissing => "missing \x7b"
  | .unknownCharName name => "undefined character name " ++ quoted name
  | .nameMissing what => "missing " ++ what
  | .openName terminator => "missing " ++ String.ofList [terminator] ++ ", unterminated name"
  | .badGroupName name => "bad character in group name " ++ quoted name
  | .unknownGroupName name => "unknown group name " ++ quoted name
  | .repeatedGroupName name number before =>
    "redefinition of group name " ++ quoted name ++ " as group " ++ natText number ++ "; was group " ++
      natText before
  | .badGroupNumber => "bad group number"
  | .invalidReference number => "invalid group reference " ++ natText number
  | .openReference => "cannot refer to an open group"
  | .referenceInLookBehind => "cannot refer to group defined in the same lookbehind subpattern"
  | .tooManyChoices => "conditional backref with more than two branches"
  | .unknownExtension name => "unknown extension ?" ++ name
  | .lateFlags => "global flags not at the start of the expression"
  | .localeFlag => "bad inline flags: cannot use 'L' flag with a str pattern"
  | .clashingFlags => "bad inline flags: flags 'a', 'u' and 'L' are incompatible"
  | .unknownFlag => "unknown flag"
  | .flagsOpen => "missing -, : or )"
  | .flagMissing => "missing flag"
  | .colonMissing => "missing :"
  | .flagNeverOn => "bad inline flags: cannot turn on global flag"
  | .flagNeverOff => "bad inline flags: cannot turn off global flag"
  | .typeFlagOff => "bad inline flags: cannot turn off flags 'a', 'u' and 'L'"
  | .flagOnAndOff => "bad inline flags: flag turned on and off"

/-! ## Errors -/

/-- A position in a text. -/
structure TextPosition where
  offset : Nat
  /-- The line and the column, in a text of more than one line. -/
  lineColumn : Option (Nat × Nat)
deriving DecidableEq, Repr

/-- The position behind a number of characters of a text. -/
def TextPosition.ofOffset (source : List Char) (offset : Nat) : TextPosition :=
  let before := source.take offset
  let line := before.count '\n' + 1
  let column := (before.reverse.takeWhile (· != '\n')).length + 1
  ⟨offset, if source.contains '\n' then some (line, column) else none⟩

/-- A position in words. -/
def TextPosition.text (p : TextPosition) : String :=
  "at position " ++ natText p.offset ++
    p.lineColumn.elim "" fun (line, column) =>
      " (line " ++ natText line ++ ", column " ++ natText column ++ ")"

/-- Why a text is no pattern. -/
inductive PatternError where
  | defect (cause : PatternDefect) (position : TextPosition)
  /-- A look behind has texts of different lengths. -/
  | lookBehindVaries
  | lookBehindTooLong
  /-- Groups stand in one another too deeply. -/
  | tooDeep
  /-- A count is too large for a repetition. -/
  | countTooLarge
  /-- A count is too long to be read. -/
  | unreadableCount (cause : IntegerError)
deriving DecidableEq, Repr

/-- The cause in words. -/
def PatternError.message : PatternError → String
  | .defect cause position => cause.text ++ " " ++ position.text
  | .lookBehindVaries => "look-behind requires fixed-width pattern"
  | .lookBehindTooLong => "looks too much behind"
  | .tooDeep => "maximum recursion depth exceeded"
  | .countTooLarge => "the repetition number is too large"
  | .unreadableCount cause => cause.message

/-- The name of the class of errors that a cause belongs to. -/
def PatternError.kind : PatternError → String
  | .tooDeep => "RecursionError"
  | .countTooLarge => "OverflowError"
  | .unreadableCount _ => "ValueError"
  | _ => "error"

end SplitExport
