import SplitExport.Datum
import SplitExport.Text.Upper

/-!
# Log levels — how much a record matters

Levels are ordered by their severity. A logger that has no level of its own (`notSet`) writes what its
surroundings write: warnings and what is worse.
-/

namespace SplitExport.Log

open SplitExport.Text

/-- How much a record matters. -/
inductive Level where
  | notSet
  | debug
  | info
  | warning
  | error
  | critical
deriving DecidableEq, Repr

/-- A name is no level. -/
structure LevelError where
  name : String
deriving DecidableEq, Repr

/-- The cause in words. -/
def LevelError.message (e : LevelError) : String :=
  "Unknown level: " ++ quoted e.name

namespace Level

/-- The severity of a level. -/
def severity : Level → Nat
  | .notSet => 0
  | .debug => 10
  | .info => 20
  | .warning => 30
  | .error => 40
  | .critical => 50

/-- The name of a level. -/
def name : Level → String
  | .notSet => "NOTSET"
  | .debug => "DEBUG"
  | .info => "INFO"
  | .warning => "WARNING"
  | .error => "ERROR"
  | .critical => "CRITICAL"

/-- The level with a name in capitals; two levels have a second name. -/
def ofName (name : String) : Except LevelError Level :=
  match name with
  | "NOTSET" => .ok .notSet
  | "DEBUG" => .ok .debug
  | "INFO" => .ok .info
  | "WARNING" | "WARN" => .ok .warning
  | "ERROR" => .ok .error
  | "CRITICAL" | "FATAL" => .ok .critical
  | other => .error ⟨other⟩

/-- The level that a setting names, in any case; an empty setting names `info`. -/
def ofSetting (setting : Datum) : Except LevelError Level :=
  ofName (upper (if setting.isTruthy then setting.display else "INFO"))

/-- The least severity that a logger of this level writes. -/
def threshold : Level → Nat
  | .notSet => Level.warning.severity
  | level => level.severity

/-- Whether a logger of level `own` writes records of a level. -/
def admits (own level : Level) : Bool :=
  own.threshold ≤ level.severity

end Level

end SplitExport.Log
