import SplitExport.Command.Arguments

/-!
# Usage — the texts of the command about itself

Both texts are laid out for lines of 80 characters.
-/

namespace SplitExport.Command

/-- The name of the command. -/
def commandName : String := "peq-build-queries"

/-- The databases as a set of choices. -/
def databaseChoices : String :=
  "\x7b" ++ ",".intercalate databases ++ "\x7d"

/-- How the command is used. -/
def usage : String :=
  let margin := "\n                         "
  "usage: " ++ commandName ++ " [-h]" ++
    margin ++ "[--db-type " ++ databaseChoices ++ "]" ++
    margin ++ "[--host HOST] [--port PORT] [--database DATABASE]" ++
    margin ++ "[--username USERNAME] --table TABLE" ++
    margin ++ "[--sql-file SQL_FILE] [--limit LIMIT]" ++
    margin ++ "[--partition-column PARTITION_COLUMN]" ++
    margin ++ "[--partition PARTITION]" ++
    margin ++ "[--partition-period PARTITION_PERIOD]" ++
    margin ++ "[--split-column SPLIT_COLUMN]" ++
    margin ++ "[--query-parallelism QUERY_PARALLELISM]" ++
    margin ++ "[--format \x7btext,json\x7d]\n"

/-- The help: the usage and a line on each flag. -/
def help : String :=
  usage ++
    "\nBuild the queries of a parallel table export\n" ++
    "\noptions:\n" ++
    "  -h, --help            show this help message and exit\n" ++
    "  --format \x7btext,json\x7d\n" ++
    "\nsource database:\n" ++
    "  --db-type " ++ databaseChoices ++ "\n" ++
    "  --host HOST\n" ++
    "  --port PORT\n" ++
    "  --database DATABASE   database name, or file path for duckdb\n" ++
    "  --username USERNAME\n" ++
    "\nexport query:\n" ++
    "  --table TABLE\n" ++
    "  --sql-file SQL_FILE   file holding a SELECT used instead of the table\n" ++
    "  --limit LIMIT\n" ++
    "  --partition-column PARTITION_COLUMN\n" ++
    "  --partition PARTITION\n" ++
    "                        first day of the partition window (YYYY-MM-DD)\n" ++
    "  --partition-period PARTITION_PERIOD\n" ++
    "                        window length, e.g. 1d, 1mo or P1M (default 1d)\n" ++
    "  --split-column SPLIT_COLUMN\n" ++
    "  --query-parallelism QUERY_PARALLELISM\n"

/-- The complaint about a command line. -/
def complaint (e : UsageError) : String :=
  usage ++ commandName ++ ": error: " ++ e.message ++ "\n"

end SplitExport.Command
