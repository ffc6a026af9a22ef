import SplitExport.Column.Kind
import SplitExport.Datum
import SplitExport.Text.Lower

/-!
# Catalogs — the type codes and type names of the databases

A database describes the columns of a result by numeric codes. A catalog names the type of each code
and gives the column kind of each name.

* Vertica has a catalog of its own; every other database is described by the one of PostgreSQL.
* A code without a name is `unknown`, and a name without a kind gives columns of objects.
-/

namespace SplitExport

open SplitExport.Text

/-- The types of a database. -/
structure Catalog where
  /-- The name of each type code. -/
  codes : List (Int × String)
  /-- The column kind of each name. -/
  kinds : List (String × ColumnKind)
deriving Repr

namespace Catalog

/-- The catalog of PostgreSQL and Greenplum. -/
def postgresql : Catalog where
  codes := [
    (16, "boolean"), (20, "bigint"), (21, "smallint"), (23, "integer"), (25, "text"), (700, "real"),
    (701, "double precision"), (790, "money"), (1042, "character"), (1043, "character varying"),
    (1082, "date"), (1083, "time"), (1114, "timestamp"), (1184, "timestamptz"), (1700, "numeric"),
    (2950, "uuid")]
  kinds := [
    ("smallint", .signed 16), ("integer", .signed 32), ("bigint", .signed 64), ("real", .float32),
    ("double precision", .float64), ("numeric", .float64), ("boolean", .boolean), ("date", .date),
    ("time", .time), ("timestamp", .anyMoment), ("timestamptz", .anyMoment),
    ("character varying", .text), ("character", .text), ("text", .text), ("money", .text),
    ("uuid", .text)]

/-- The catalog of Vertica, whose integers always have 64 bits. -/
def vertica : Catalog where
  codes := [
    (5, "boolean"), (6, "integer"), (7, "float"), (8, "char"), (9, "varchar"), (10, "date"),
    (11, "time"), (12, "timestamp"), (13, "timestamptz"), (14, "interval"),
    (15, "time with time zone"), (16, "numeric"), (17, "varbinary"), (20, "uuid"),
    (115, "long varchar"), (116, "long varbinary"), (117, "binary")]
  kinds := [
    ("integer", .signed 64), ("float", .float64), ("numeric", .float64), ("boolean", .boolean),
    ("date", .date), ("time", .time), ("timestamp", .anyMoment), ("timestamptz", .anyMoment),
    ("char", .text), ("varchar", .text), ("long varchar", .text), ("uuid", .text),
    ("binary", .binary), ("varbinary", .binary), ("long varbinary", .binary)]

/-- The catalog of a database, whose name may be written in any case. -/
def ofDatabase (database : String) : Catalog :=
  if lower database = "vertica" then vertica else postgresql

/-! ## Looking up -/

/-- The numeric type code that a datum is equal to: a truth value counts as 0 or 1. -/
def codeOf? : Datum → Option Int
  | .int i => some i
  | .bool b => some (if b then 1 else 0)
  | .float x => x.toInteger?
  | .decimal d => d.toInteger?
  | _ => none

/-- The name of the type with a code. -/
def typeName (catalog : Catalog) (code : Datum) : String :=
  ((codeOf? code).bind fun c => catalog.codes.lookup c).getD "unknown"

/-- The column kind of a type. -/
def kindOf (catalog : Catalog) (typeName : String) : ColumnKind :=
  (catalog.kinds.lookup typeName).getD .object

end Catalog

end SplitExport
