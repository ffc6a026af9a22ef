/-!
# Paths — the names of files as sequences of parts

A path is split at its slashes; empty parts and single points say nothing, two points say "one up".

* `parts` and `join` go between a text and its parts; `isAbsolute` tells where the walk starts.
* `directoryPart` is what stands before the last slash, without the slashes there.
* `absolute` writes a path from the root, with every "one up" carried out on the text alone;
  `tidy` only drops the parts that say nothing.
-/

namespace SplitExport.Files

/-- The pieces between the slashes of a text, empty ones too. -/
def splitSlashes : List Char → List (List Char)
  | [] => [[]]
  | c :: cs =>
    if c = '/' then [] :: splitSlashes cs
    else
      match splitSlashes cs with
      | [] => [[c]]
      | piece :: rest => (c :: piece) :: rest

/-- The parts of a path, as they stand. -/
def parts (path : String) : List String :=
  (splitSlashes path.toList).map String.ofList

/-- Parts with slashes between them. -/
def join (names : List String) : String :=
  "/".intercalate names

/-- Whether a path starts at the root. -/
def isAbsolute (path : String) : Bool :=
  path.toList.head? == some '/'

/-- Whether a part names something. -/
def isNaming (part : String) : Bool :=
  part != "" && part != "."

/-- What stands before the last slash, without the slashes at its end unless there is nothing else. -/
def directoryPart (path : String) : String :=
  let head := (path.toList.reverse.dropWhile (· != '/')).reverse
  if head.all (· == '/') then String.ofList head
  else String.ofList (head.reverse.dropWhile (· == '/')).reverse

/-- What stands after the last slash. -/
def namePart (path : String) : String :=
  String.ofList (path.toList.reverse.takeWhile (· != '/')).reverse

/-- Carries out "one up" on the names that were passed, the last one first. -/
def climb (passed : List String) (part : String) : List String :=
  if part = ".." then passed.drop 1
  else if isNaming part then part :: passed
  else passed

/-- The names on the way from the root to a path, taken from a directory unless it is absolute. -/
def absoluteNames (directory : List String) (path : String) : List String :=
  ((parts path).foldl climb (if isAbsolute path then [] else directory.reverse)).reverse

/-- The slashes at the front of a path that say something: two of them stay two, more are one. -/
def rootMark (path : String) : String :=
  match path.toList with
  | '/' :: '/' :: '/' :: _ => "/"
  | '/' :: '/' :: _ => "//"
  | _ => "/"

/-- The path written from the root. -/
def absolute (directory : List String) (path : String) : String :=
  (if isAbsolute path then rootMark path else "/") ++ join (absoluteNames directory path)

/-- The path without the parts that say nothing; the empty path is the point. -/
def tidy (path : String) : String :=
  let names := (parts path).filter isNaming
  if isAbsolute path then rootMark path ++ join names
  else if names.isEmpty then "."
  else join names

end SplitExport.Files
