import SplitExport.Source.Description

/-!
# Sources — databases as the answers they give

A source is known by what it answers to one statement after the other; the last answer is given again
for every further statement. It keeps account of what happened to it: the statements it was sent, the
cursors opened and closed on it, and how often it was closed.
-/

namespace SplitExport

open SplitExport.Number

/-- What a source answers to a statement. -/
inductive Reply where
  /-- Rows under a description; fetching them may fail. -/
  | rows (description : Option (List ColumnDescription)) (rows : List (List Datum))
    (fetchFault : Option Fault)
  /-- A result in columns, which are built when it is asked for. -/
  | columns (columns : List RawColumn)
  /-- The statement fails. -/
  | refusal (fault : Fault)
deriving Repr

/-- A database, its answers to come and its account. -/
structure Source where
  replies : List Reply
  executed : List String := []
  cursorsOpened : Nat := 0
  cursorsClosed : Nat := 0
  closed : Nat := 0
  /-- How long it takes to answer. -/
  seconds : Binary64 := .finite false 0 0
deriving Repr

namespace Source

/-- The fault of a source that has no answers at all. -/
def silent : Fault := ⟨"IndexError", "list index out of range", .other⟩

/-- The answer to the next statement. -/
def nextReply (s : Source) : Reply :=
  s.replies.headD (.refusal silent)

/-- The answers that remain after one more statement. -/
def remaining : List Reply → List Reply
  | _ :: next :: rest => next :: rest
  | last => last

/-- The source after it was sent a statement. -/
def send (s : Source) (sql : String) : Source :=
  { s with replies := remaining s.replies, executed := s.executed ++ [sql] }

/-- The source with one more cursor opened. -/
def openCursor (s : Source) : Source :=
  { s with cursorsOpened := s.cursorsOpened + 1 }

/-- The source with one more cursor closed. -/
def closeCursor (s : Source) : Source :=
  { s with cursorsClosed := s.cursorsClosed + 1 }

/-- The source closed once more. -/
def close (s : Source) : Source :=
  { s with closed := s.closed + 1 }

end Source

end SplitExport
