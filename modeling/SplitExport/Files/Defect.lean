import SplitExport.Text.Quoted

/-!
# File defects — what can be wrong with a path

A defect has a number and a text, both those of the operating system; an error names the path that it
is about. A path with a NUL character never gets that far: its defect has no number.
-/

namespace SplitExport.Files

open SplitExport.Text

/-- What can be wrong with a path. -/
inductive FileDefect where
  | missing
  | exists
  | notDirectory
  | isDirectory
  | nameTooLong
  /-- There is a NUL character in the path. -/
  | embeddedNul
  /-- Anything else that the operating system finds, by its number and in its words. -/
  | other (number : Nat) (text : String)
deriving DecidableEq, Repr

/-- The number of a defect, if it has one. -/
def FileDefect.number? : FileDefect → Option Nat
  | .missing => some 2
  | .exists => some 17
  | .notDirectory => some 20
  | .isDirectory => some 21
  | .nameTooLong => some 36
  | .embeddedNul => none
  | .other number _ => some number

/-- A defect in words. -/
def FileDefect.text : FileDefect → String
  | .missing => "No such file or directory"
  | .exists => "File exists"
  | .notDirectory => "Not a directory"
  | .isDirectory => "Is a directory"
  | .nameTooLong => "File name too long"
  | .embeddedNul => "embedded null byte"
  | .other _ text => text

/-- A defect of a path. -/
structure FileError where
  defect : FileDefect
  path : String
deriving DecidableEq, Repr

/-- The cause in words. -/
def FileError.message (e : FileError) : String :=
  match e.defect.number? with
  | some number => "[Errno " ++ natText number ++ "] " ++ e.defect.text ++ ": " ++ quoted e.path
  | none => e.defect.text

end SplitExport.Files
