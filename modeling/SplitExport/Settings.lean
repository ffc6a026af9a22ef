import SplitExport.Datum

/-!
# Settings — names, defaults and limits that an installation may change

`Settings` has a field for every choice, and the field's default is the choice of an installation that
changes nothing.
-/

namespace SplitExport

/-- Where log lines go and from which level on. -/
structure LogSettings where
  /-- The least level that is written. -/
  level : Datum := .text "INFO"
  /-- The path of the log file; an empty one means no file. -/
  file : Datum := .text ""
deriving Repr, Inhabited

/-- The choices of an installation. -/
structure Settings where
  /-- The names of the two columns of a bounds probe. -/
  minColumn : String := "min_s"
  maxColumn : String := "max_s"
  /-- The name of the sub-select that a bounds probe reads. -/
  boundsAlias : String := "limits_query"
  /-- The name of the sub-select that holds a query given as text. -/
  rawAlias : String := "user_sql_query"
  /-- The period of a partition that names none. -/
  defaultPeriod : Datum := .text "1d"
  /-- The units that a period may be written in. -/
  periodUnits : Datum := .list (["d", "w", "mo", "q", "y"].map .text)
  /-- The logging of an installation. -/
  log : LogSettings := {}
  /-- The port of each database that is reached over a network. -/
  ports : List (String × Datum) :=
    [("postgresql", .int 5432), ("greenplum", .int 5432), ("vertica", .int 5433)]
deriving Repr, Inhabited

end SplitExport
