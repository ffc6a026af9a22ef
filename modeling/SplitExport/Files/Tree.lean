import SplitExport.Files.Defect
import SplitExport.Files.Path

/-!
# File trees — directories, files and what can go wrong with them

* A `Tree` lists the entries below the root by the names that lead to them.
* `Tree.find` walks a path part by part: whatever is walked through must be a directory. Names and
  paths are bounded in length, and hold no NUL character.
* `Tree.makeDirectories`, `openForAppending`, `appendTo` and `read` do what their names say; errors name
  the path that they are about.
-/

namespace SplitExport.Files

/-! ## Trees -/

/-- What a path can lead to. -/
inductive Entry where
  | directory
  | file (content : List UInt8)
deriving DecidableEq, Repr

/-- The entries below the root, in the order in which they were made, and the directory that relative
    paths start from. -/
structure Tree where
  entries : List (List String × Entry) := []
  working : List String := []
deriving DecidableEq, Repr

/-- The longest name of an entry, in octets. -/
def nameLimit : Nat := 255

/-- The longest path, in octets. -/
def pathLimit : Nat := 4095

/-- Checks the characters of a path and its length. -/
def checkPath (path : String) : Except FileDefect Unit :=
  if path.toList.contains '\x00' then .error .embeddedNul
  else if pathLimit < path.utf8ByteSize then .error .nameTooLong
  else .ok ()

namespace Tree

/-- The entry at the end of a way from the root. -/
def entry? (t : Tree) (way : List String) : Option Entry :=
  if way.isEmpty then some .directory else t.entries.lookup way

/-- Walks on from a way: one part after the other, each from a directory. -/
def walk (t : Tree) : List String → List String → Except FileDefect (List String)
  | way, [] => .ok way
  | way, part :: rest =>
    match t.entry? way with
    | none => .error .missing
    | some (.file _) => .error .notDirectory
    | some .directory =>
      let next :=
        if part = ".." then way.dropLast else if isNaming part then way ++ [part] else way
      if nameLimit < part.utf8ByteSize then .error .nameTooLong
      else
        match t.entry? next with
        | none => .error .missing
        | some _ => walk t next rest

/-- Where the walk along a path starts. -/
def start (t : Tree) (path : String) : List String :=
  if isAbsolute path then [] else t.working

/-- The way to what a path leads to. -/
def find (t : Tree) (path : String) : Except FileDefect (List String) := do
  checkPath path
  t.walk (t.start path) (parts path)

/-- Whether a path leads anywhere. -/
def has (t : Tree) (path : String) : Bool :=
  match t.find path with
  | .ok _ => true
  | .error _ => false

/-- Whether a path leads to a directory. -/
def hasDirectory (t : Tree) (path : String) : Bool :=
  match t.find path with
  | .ok way => t.entry? way == some .directory
  | .error _ => false

/-- The tree with an entry set. -/
def set (t : Tree) (way : List String) (e : Entry) : Tree :=
  if (t.entry? way).isSome then
    { t with entries := t.entries.map fun old => if old.1 = way then (way, e) else old }
  else { t with entries := t.entries ++ [(way, e)] }

/-! ## Directories -/

/-- The way to the directory that would hold what a path names, and the name; slashes at the end of the
    path do not count. -/
def place (t : Tree) (path : String) : Except FileDefect (List String × String) := do
  checkPath path
  let names := ((parts path).reverse.dropWhile (· == "")).reverse
  match names.getLast? with
  | none => .error .exists
  | some name =>
    let way ← t.walk (t.start path) names.dropLast
    match t.entry? way with
    | some .directory => if nameLimit < name.utf8ByteSize then .error .nameTooLong else return (way, name)
    | _ => .error .notDirectory

/-- Makes one directory. -/
def makeDirectory (t : Tree) (path : String) : Except FileDefect Tree := do
  let (way, name) ← t.place path
  if !isNaming name || name == ".." || (t.entry? (way ++ [name])).isSome then .error .exists
  else return t.set (way ++ [name]) .directory

/-- Makes one directory, or finds it there: the tree afterwards, and what went wrong. -/
def ensureDirectory (t : Tree) (path : String) : Tree × Option FileError :=
  match t.makeDirectory path with
  | .ok made => (made, none)
  | .error defect => (t, if t.hasDirectory path then none else some ⟨defect, path⟩)

/-- A path split before its last name; slashes at the end of the path do not count. -/
def splitLast (path : String) : String × String :=
  if namePart path = "" then
    let head := directoryPart path
    (directoryPart head, namePart head)
  else (directoryPart path, namePart path)

/-- Makes a directory and those above it that are missing, at most `depth` of them: the tree afterwards,
    and what went wrong. That one above is there already, even as a file, only shows when the next one is
    made. -/
def makeDirectories (t : Tree) : Nat → String → Tree × Option FileError
  | 0, path => t.ensureDirectory path
  | depth + 1, path =>
    let (head, name) := splitLast path
    if head ≠ "" ∧ name ≠ "" ∧ t.has head = false then
      let (made, failure) := t.makeDirectories depth head
      match failure.filter (·.defect ≠ .exists) with
      | some e => (made, some e)
      | none => if name = "." then (made, none) else made.ensureDirectory path
    else t.ensureDirectory path

/-! ## Files -/

/-- Makes sure that a file can be appended to, and gives the way to it; `path` must be absolute. -/
def openForAppending (t : Tree) (path : String) : Except FileError (Tree × List String) :=
  match t.place path with
  | .error .exists => .error ⟨.isDirectory, path⟩
  | .error defect => .error ⟨defect, path⟩
  | .ok (way, name) =>
    match t.entry? (way ++ [name]) with
    | some .directory => .error ⟨.isDirectory, path⟩
    | some (.file _) => .ok (t, way ++ [name])
    | none => .ok (t.set (way ++ [name]) (.file []), way ++ [name])

/-- The tree with octets added to a file. -/
def appendTo (t : Tree) (way : List String) (octets : List UInt8) : Tree :=
  match t.entry? way with
  | some (.file content) => t.set way (.file (content ++ octets))
  | _ => t

/-- The octets of a file. -/
def read (t : Tree) (path : String) : Except FileError (List UInt8) :=
  match t.find path with
  | .error defect => .error ⟨defect, path⟩
  | .ok way =>
    match t.entry? way with
    | some (.file content) => .ok content
    | _ => .error ⟨.isDirectory, path⟩

end Tree

end SplitExport.Files
