import SplitExport.Text.Digit

/-!
# Command tokens — flags and values on a command line

Every argument of a command line is a token of its own.

* A flag may be shortened as long as it stays different from the others, and may carry a value behind
  an equals sign. Behind the letter of the short flag more letters may stand.
* What starts like a flag but is none is unknown, unless it is a negative number or holds a blank.
* Everything behind `--` is a value.
-/

namespace SplitExport.Command

open SplitExport.Text

/-! ## Flags -/

/-- The flags of the command. -/
inductive Flag where
  | help
  | dbType
  | host
  | port
  | database
  | username
  | table
  | sqlFile
  | limit
  | partitionColumn
  | partition
  | partitionPeriod
  | splitColumn
  | queryParallelism
  | format
deriving DecidableEq, Repr

/-- The spellings of the flags, in the order of the help. -/
def spellings : List (String × Flag) :=
  [("-h", .help), ("--help", .help), ("--db-type", .dbType), ("--host", .host), ("--port", .port),
   ("--database", .database), ("--username", .username), ("--table", .table),
   ("--sql-file", .sqlFile), ("--limit", .limit), ("--partition-column", .partitionColumn),
   ("--partition", .partition), ("--partition-period", .partitionPeriod),
   ("--split-column", .splitColumn), ("--query-parallelism", .queryParallelism),
   ("--format", .format)]

/-- The name of a flag: all its spellings. -/
def Flag.name (f : Flag) : String :=
  "/".intercalate ((spellings.filter (·.2 = f)).map (·.1))

/-! ## Tokens -/

/-- What an argument of the command line is. -/
inductive Token where
  | value (text : String)
  /-- The end of the flags. -/
  | divider
  /-- A flag and the value that it carries behind an equals sign. -/
  | flag (flag : Flag) (carried : Option String)
  /-- The short help flag and what stands behind its letter. -/
  | letters (tail : String)
  /-- Something like a flag. -/
  | unknown (text : String)
deriving DecidableEq, Repr

/-- A shortened flag fits several flags. -/
structure Ambiguity where
  given : String
  fitting : List String
deriving DecidableEq, Repr

/-- Whether a text is a negative number, whole or with a fraction; a line feed may follow. -/
def isNegativeNumber (cs : List Char) : Bool :=
  let body := if cs.getLast? = some '\n' then cs.dropLast else cs
  match body with
  | '-' :: rest =>
    let fraction := rest.dropWhile isDigit
    match fraction with
    | [] => !rest.isEmpty
    | '.' :: digits => !digits.isEmpty && digits.all isDigit
    | _ => false
  | _ => false

/-- A text cut at its first equals sign. -/
def cutAtEquals (text : String) : String × Option String :=
  let cs := text.toList
  match cs.dropWhile (· != '=') with
  | [] => (text, none)
  | _ :: carried => (String.ofList (cs.takeWhile (· != '=')), some (String.ofList carried))

/-- The flags that a text with two dashes may be short for, by their spellings. -/
def fitting (text : String) : List (String × Flag) :=
  spellings.filter fun (spelling, _) => text.toList.isPrefixOf spelling.toList

/-- Reads a text that starts with a dash but spells no flag. -/
def readLoose (text : String) : Except Ambiguity Token :=
  let (head, carried) := cutAtEquals text
  let other : Token :=
    if isNegativeNumber text.toList || text.toList.contains ' ' then .value text else .unknown text
  match text.toList with
  | '-' :: '-' :: _ =>
    match fitting head with
    | [] => .ok other
    | [(_, flag)] => .ok (.flag flag carried)
    | several => .error ⟨text, several.map (·.1)⟩
  | '-' :: 'h' :: rest => .ok (.letters (String.ofList rest))
  | _ => .ok other

/-- Reads one argument. -/
def readToken (text : String) : Except Ambiguity Token :=
  match text.toList with
  | '-' :: _ :: _ =>
    match spellings.lookup text with
    | some flag => .ok (.flag flag none)
    | none =>
      let (head, carried) := cutAtEquals text
      match carried, spellings.lookup head with
      | some letters, some .help => .ok (if head = "-h" then .letters letters else .flag .help carried)
      | some _, some flag => .ok (.flag flag carried)
      | _, _ => readLoose text
  | _ => .ok (.value text)

/-- Reads the arguments of a command line. -/
def readTokens : List String → Except Ambiguity (List Token)
  | [] => .ok []
  | text :: rest =>
    if text = "--" then .ok (.divider :: rest.map .value)
    else do return (← readToken text) :: (← readTokens rest)

end SplitExport.Command
