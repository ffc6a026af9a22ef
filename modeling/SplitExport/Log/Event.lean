import SplitExport.Log.Level

/-!
# Log events — what happens during an export, and the records of it

* An `Event` is something that happened. `State.after` says how it changes the context of the messages
  and the counts of built and failed exports.
* `State.record?` gives the level and the message of an event, with the context in front: the table,
  the split column, the parallelism, the number of queries, and the memory in use.
* A number in a message or in a context may have too many digits to be written. There is no record then,
  and `State.refuses` says when a logger refuses to tell of an event for that.
-/

namespace SplitExport.Log

open SplitExport.Number SplitExport.Text

/-! ## Contexts -/

/-- The export that messages are about. -/
structure Context where
  table : Option String
  splitColumn : Option String := none
  parallelism : Option Int := none
  queryCount : Int := 0
deriving DecidableEq, Repr

/-- The text of something that may be missing. -/
def orNone (text : Option String) : String :=
  text.getD "None"

/-- The parts of a context that messages show. -/
def Context.parts (c : Context) : List String :=
  let split := match c.splitColumn with
    | some column => if column.isEmpty then [] else ["SPLIT:" ++ column]
    | none => []
  let parallelism := match c.parallelism with
    | some p => if p = 0 then [] else ["PARALLELISM:" ++ intText p]
    | none => []
  let queries := if 0 < c.queryCount then ["QUERIES:" ++ intText c.queryCount] else []
  ("TABLE:" ++ orNone c.table) :: split ++ parallelism ++ queries

/-- Whether the numbers in the parts of a context are written. -/
def Context.isWritten (c : Context) : Bool :=
  c.parallelism.all isWritable && (decide (c.queryCount ≤ 0) || isWritable c.queryCount)

/-- A number of octets in megabytes. -/
def memoryText : Option Nat → String
  | some octets => (BinaryFormat.double.ofRatio false octets (Nat.pow 2 20)).fixedText 1 ++ "MB"
  | none => "Unknown"

/-- What stands in front of a message. -/
def headText (context : Option Context) (memory : Option Nat) : String :=
  let shown := (context.map Context.parts).getD [] ++ ["MEM:" ++ memoryText memory]
  "[" ++ "] [".intercalate shown ++ "]"

/-- What stands in front of a message, if the numbers in it are written. -/
def head (context : Option Context) (memory : Option Nat) : Except OversizeInteger String :=
  if context.all Context.isWritten then .ok (headText context memory) else .error {}

/-! ## Events -/

/-- What can happen. -/
inductive Event where
  /-- A plain message. -/
  | note (level : Level) (text : String)
  /-- Messages are about another export from now on. -/
  | contextSet (context : Context)
  /-- Messages are about no export from now on. -/
  | contextCleared
  /-- The queries of an export are about to be built. -/
  | started (table splitColumn : Option String) (parallelism : Option Int)
  /-- A probe found the bounds of a column. -/
  | boundsProbed (min max : Datum) (seconds : Binary64)
  /-- A probe found no bounds because there are no rows. -/
  | nullBounds (splitColumn : Option String)
  /-- The span of a column was divided. -/
  | rangesCalculated (count width : Int)
  /-- The queries of an export were built. -/
  | built (count : Int)
  /-- The queries of an export could not be built. -/
  | failed (kind text : String)
deriving Repr

/-- Whether the numbers in the message of an event are written. -/
def Event.isWritten : Event → Bool
  | .started _ _ parallelism => parallelism.all isWritable
  | .boundsProbed min max _ => min.isWritten && max.isWritten
  | .rangesCalculated count width => isWritable count && isWritable width
  | .built count => isWritable count
  | _ => true

/-- The level and the words of an event that is written about. -/
def Event.words? : Event → Option (Level × String)
  | .note level text => some (level, text)
  | .contextSet _ | .contextCleared => none
  | .started _ column parallelism =>
    match parallelism with
    | some p =>
      if p = 0 then some (.info, "Building single export query")
      else some (.info, "Building queries split on '" ++ orNone column ++ "' with parallelism " ++ intText p)
    | none => some (.info, "Building single export query")
  | .boundsProbed min max seconds =>
    some (.info, "Split column bounds: min=" ++ min.display ++ ", max=" ++ max.display ++
      " (probe took " ++ seconds.fixedText 2 ++ "s)")
  | .nullBounds column =>
    some (.warning, "Bounds probe on '" ++ orNone column ++
      "' returned NULL (empty window), using [0, 0]")
  | .rangesCalculated count width =>
    some (.debug, "Calculated " ++ intText count ++ " ranges (bucket size: " ++ intText width ++ ")")
  | .built count =>
    some (.info, "Built " ++ intText count ++ " export " ++ if count = 1 then "query" else "queries")
  | .failed kind text => some (.error, "Query building failed: " ++ kind ++ ": " ++ text)

/-- The level and the message of an event that is written about, if the numbers in it are written. -/
def Event.message? (e : Event) : Option (Level × String) :=
  if e.isWritten then e.words? else none

/-! ## States -/

/-- What a logger knows: the export its messages are about, and how many were built and failed. -/
structure State where
  context : Option Context := none
  built : Nat := 0
  failed : Nat := 0
deriving DecidableEq, Repr

/-- A written message. -/
structure Record where
  level : Level
  text : String
deriving DecidableEq, Repr

namespace State

/-- The state after an event. -/
def after (s : State) : Event → State
  | .contextSet context => { s with context := some context }
  | .contextCleared => { s with context := none }
  | .started table splitColumn parallelism =>
    { s with context := some { table, splitColumn, parallelism } }
  | .built count =>
    { s with
      context := s.context.map fun c => { c with queryCount := count }
      built := s.built + 1 }
  | .failed .. => { s with failed := s.failed + 1 }
  | _ => s

/-- The record of an event, with the context that holds after it. -/
def record? (memory : Option Nat) (s : State) (e : Event) : Option Record := do
  let (level, text) ← e.message?
  let front ← (head (s.after e).context memory).toOption
  return ⟨level, front ++ " " ++ text⟩

/-- Whether a logger of a level refuses to tell of an event, since a number that it would write has too many
    digits. The context is left out of this for debugging messages that the level does not admit. -/
def refuses (own : Level) (s : State) (e : Event) : Bool :=
  !e.isWritten || match e.message? with
    | none => false
    | some (level, _) =>
      (level != .debug || own.admits .debug) && !(s.after e).context.all Context.isWritten

end State

end SplitExport.Log
