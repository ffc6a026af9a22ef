import SplitExport.Command.Token
import SplitExport.Number.Integer
import SplitExport.Text.Quoted

/-!
# Command arguments — what a command line asks for

* `Request.read` goes through the tokens from left to right: a flag takes the value that it carries or
  the next token, and what belongs to no flag is left over.
* Help is given as soon as its flag is reached. A value that does not fit its flag is an error at once;
  that the table is missing, and then that something is left over, are errors at the end.
* A flag that carries `--` is given, but has no value (`Given`).
-/

namespace SplitExport.Command

open SplitExport.Number SplitExport.Text

/-! ## Causes -/

/-- What is wrong with a command line. -/
inductive UsageError where
  | ambiguous (cause : Ambiguity)
  | valueMissing (flag : Flag)
  | valueIgnored (flag : Flag) (value : String)
  | notInteger (flag : Flag) (value : String)
  | notAChoice (flag : Flag) (value : String) (choices : List String)
  | tableMissing
  | leftOver (texts : List String)
deriving DecidableEq, Repr

/-- The cause in words. -/
def UsageError.message : UsageError → String
  | .ambiguous cause =>
    "ambiguous option: " ++ cause.given ++ " could match " ++ ", ".intercalate cause.fitting
  | .valueMissing flag => "argument " ++ flag.name ++ ": expected one argument"
  | .valueIgnored flag value =>
    "argument " ++ flag.name ++ ": ignored explicit argument " ++ quoted value
  | .notInteger flag value => "argument " ++ flag.name ++ ": invalid int value: " ++ quoted value
  | .notAChoice flag value choices =>
    "argument " ++ flag.name ++ ": invalid choice: " ++ quoted value ++ " (choose from " ++
      ", ".intercalate (choices.map quoted) ++ ")"
  | .tableMissing => "the following arguments are required: " ++ Flag.table.name
  | .leftOver texts => "unrecognized arguments: " ++ " ".intercalate texts

/-! ## Arguments -/

/-- How queries are printed. -/
inductive Format where
  | text
  | json
deriving DecidableEq, Repr

/-- The databases that can be chosen. -/
def databases : List String := ["postgresql", "greenplum", "vertica", "duckdb"]

/-- What a flag was given. -/
inductive Given (α : Type) where
  /-- The flag was not given. -/
  | absent
  /-- The flag was given without a value. -/
  | empty
  | value (a : α)
deriving DecidableEq, Repr

namespace Given

variable {α : Type}

/-- Whether a flag was given. -/
def isPresent : Given α → Bool
  | .absent => false
  | _ => true

/-- The value of a flag, if it has one. -/
def value? : Given α → Option α
  | .value a => some a
  | _ => none

end Given

/-- The arguments of the command. -/
structure Arguments where
  dbType : Given String := .value "postgresql"
  host : Given String := .absent
  port : Given Int := .absent
  database : Given String := .absent
  username : Given String := .absent
  table : Given String := .absent
  sqlFile : Given String := .absent
  limit : Given Int := .absent
  partitionColumn : Given String := .absent
  partition : Given String := .absent
  partitionPeriod : Given String := .absent
  splitColumn : Given String := .absent
  queryParallelism : Given Int := .absent
  format : Given Format := .value .text
deriving DecidableEq, Repr

/-- What a command line asks for. -/
inductive Request where
  | help
  | run (arguments : Arguments)
deriving DecidableEq, Repr

/-- The integer that a value writes. -/
def integerOf (flag : Flag) (value : String) : Except UsageError Int :=
  (readInteger value).mapError fun _ => .notInteger flag value

/-- One of the databases. -/
def databaseOf (flag : Flag) (value : String) : Except UsageError String :=
  if databases.contains value then .ok value else .error (.notAChoice flag value databases)

/-- One of the formats. -/
def formatOf (flag : Flag) (value : String) : Except UsageError Format :=
  match value with
  | "text" => .ok .text
  | "json" => .ok .json
  | _ => .error (.notAChoice flag value ["text", "json"])

/-- What a flag is given by a text that reads as a value of it. -/
def given {α : Type} (read : Flag → String → Except UsageError α) (flag : Flag) (text : String) :
    Except UsageError (Given α) :=
  if text = "--" then .ok .empty else (read flag text).map .value

/-- The arguments with what a flag is given by a text. -/
def Arguments.set (a : Arguments) (flag : Flag) (text : String) : Except UsageError Arguments := do
  let plain := given fun _ value => .ok value
  match flag with
  | .help => return a
  | .dbType => return { a with dbType := ← given databaseOf flag text }
  | .host => return { a with host := ← plain flag text }
  | .port => return { a with port := ← given integerOf flag text }
  | .database => return { a with database := ← plain flag text }
  | .username => return { a with username := ← plain flag text }
  | .table => return { a with table := ← plain flag text }
  | .sqlFile => return { a with sqlFile := ← plain flag text }
  | .limit => return { a with limit := ← given integerOf flag text }
  | .partitionColumn => return { a with partitionColumn := ← plain flag text }
  | .partition => return { a with partition := ← plain flag text }
  | .partitionPeriod => return { a with partitionPeriod := ← plain flag text }
  | .splitColumn => return { a with splitColumn := ← plain flag text }
  | .queryParallelism => return { a with queryParallelism := ← given integerOf flag text }
  | .format => return { a with format := ← given formatOf flag text }

/-! ## Reading -/

/-- Checks what stands behind the letter of the short help flag: nothing but more such letters. -/
def checkLetters : List Char → Except UsageError Unit
  | ['h'] => .ok ()
  | 'h' :: rest => checkLetters rest
  | rest => .error (.valueIgnored .help (String.ofList rest))

/-- The texts of tokens that belong to no flag. -/
def Token.leftover : Token → List String
  | .value text | .unknown text => [text]
  | .divider => ["--"]
  | .flag .. | .letters _ => []

/-- Goes through the tokens: the arguments and what is left over, or `none` once help is asked for. -/
def readFrom (a : Arguments) :
    List Token → Except UsageError (Option (Arguments × List String))
  | [] => .ok (some (a, []))
  | .flag .help none :: _ => .ok none
  | .flag .help (some carried) :: _ => .error (.valueIgnored .help carried)
  | .letters tail :: _ => do
    checkLetters tail.toList
    return none
  | .flag flag (some carried) :: rest => do
    readFrom (← a.set flag carried) rest
  | .flag flag none :: .value value :: rest => do
    readFrom (← a.set flag value) rest
  | .flag flag none :: _ => .error (.valueMissing flag)
  | other :: rest => do
    match ← readFrom a rest with
    | none => return none
    | some (a, texts) => return some (a, other.leftover ++ texts)

/-- Reads a command line. -/
def Request.read (line : List String) : Except UsageError Request := do
  let tokens ← (readTokens line).mapError .ambiguous
  match ← readFrom {} tokens with
  | none => return .help
  | some (a, leftover) =>
    if !a.table.isPresent then .error .tableMissing
    else if !leftover.isEmpty then .error (.leftOver leftover)
    else return .run a

end SplitExport.Command
