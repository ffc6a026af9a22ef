import SplitExport.Log.Event

/-!
# Journals — the log of one thread, kept from a level on

A journal is told of events. It goes through the states that they lead to, whatever its level is, and
keeps the records that its level admits.
-/

namespace SplitExport.Log

/-- A logger and what it has written. -/
structure Journal where
  level : Level := .info
  /-- The memory in use, if it can be told. -/
  memory : Option Nat := some 0
  state : State := {}
  records : List Record := []
deriving Repr

namespace Journal

/-- The journal after an event. -/
def log (j : Journal) (e : Event) : Journal :=
  { j with
    state := j.state.after e
    records := j.records ++ ((j.state.record? j.memory e).filter fun r => j.level.admits r.level).toList }

/-- The journal after events. -/
def logAll (j : Journal) (events : List Event) : Journal :=
  events.foldl log j

end Journal

end SplitExport.Log
