/-!
# Faults — errors that come from outside

Connecting to a database or running a statement can fail for reasons that this library does not know.
A fault keeps the name of its class and its text, and the family it belongs to decides who handles it.
-/

namespace SplitExport

/-- What kind of trouble a fault is. -/
inductive FaultFamily where
  /-- A value was wrong. -/
  | value
  /-- The operating system refused. -/
  | system
  /-- A database driver failed. -/
  | database
  /-- Anything else that can be handled. -/
  | other
  /-- What nobody handles: it ends the work that it comes up in. -/
  | fatal
deriving DecidableEq, Repr

/-- An error from outside. -/
structure Fault where
  name : String
  text : String
  family : FaultFamily
deriving DecidableEq, Repr

/-- Whether nobody handles a fault. -/
def Fault.isFatal (f : Fault) : Bool :=
  f.family = .fatal

end SplitExport
