import SplitExport.Text.Blank
import SplitExport.Text.Digit
import SplitExport.Text.Quoted

/-!
# Base queries — what an export reads, before any condition

A base query selects everything from a table or from a query given as text, and ends in a condition
that always holds.

* `isTableName` recognises plain identifiers; one line feed may follow.
* `isSelect` recognises texts whose first word is `SELECT`, and `cleaned` removes blanks at the ends
  and semicolons behind such a text, so that it can stand in brackets.
* `BaseQuery.ofTable` and `BaseQuery.ofRaw` refuse everything else.
* `namesTable`, `givesSelect`, `BaseQuery.ofNamed` and `BaseQuery.ofGiven` take texts that may be missing,
  and a missing text is refused.
-/

namespace SplitExport.Sql

open SplitExport.Text

/-! ## Table names -/

/-- The characters that an identifier starts with. -/
def startsIdentifier (c : Char) : Bool :=
  isAsciiLetter c || c == '_'

/-- The characters of an identifier. -/
def isIdentifierChar (c : Char) : Bool :=
  startsIdentifier c || isAsciiDigit c

/-- Whether a text is an identifier. -/
def isIdentifier : List Char → Bool
  | [] => false
  | c :: cs => startsIdentifier c && cs.all isIdentifierChar

/-- A text without the line feed that ends it. -/
def dropLineFeed (cs : List Char) : List Char :=
  if cs.getLast? = some '\n' then cs.dropLast else cs

/-- Whether a text names a table: an identifier, with at most one line feed behind it. -/
def isTableName (name : String) : Bool :=
  isIdentifier (dropLineFeed name.toList)

/-- Whether a name that may be missing names a table. -/
def namesTable (name : Option String) : Bool :=
  name.any isTableName

/-! ## Queries given as text -/

/-- The letters of the first word, with the long s, which is also a small form of `S`. -/
def selectLetters : List (List Char) :=
  [['S', 's', 'ſ'], ['E', 'e'], ['L', 'l'], ['E', 'e'], ['C', 'c'], ['T', 't']]

/-- Whether a text starts with the word and a blank. -/
def startsWithSelect : List (List Char) → List Char → Bool
  | [], c :: _ => isBlank c
  | forms :: more, c :: cs => forms.contains c && startsWithSelect more cs
  | _, [] => false

/-- Whether a text is a query: after any blanks, `SELECT` and a blank. -/
def isSelect (source : String) : Bool :=
  startsWithSelect selectLetters (trimLeft source.toList)

/-- Whether a text that may be missing is a query. -/
def givesSelect (source : Option String) : Bool :=
  source.any isSelect

/-- A query without blanks at its ends and semicolons behind it: blanks, then semicolons, then blanks
    are removed. -/
def cleaned (source : String) : String :=
  String.ofList (trimRight (dropRightWhile (· == ';') (trim source.toList)))

/-! ## Base queries -/

/-- Why a base query cannot be made. -/
inductive QueryError where
  | tableName
  | notSelect
deriving DecidableEq, Repr

/-- The cause in words. -/
def QueryError.message : QueryError → String
  | .tableName => "'table' must follow [a-zA-Z_][a-zA-Z0-9_]*"
  | .notSelect => "Invalid SQL query"

/-- A query to whose text conditions can be added. -/
structure BaseQuery where
  text : String
deriving DecidableEq, Repr

namespace BaseQuery

/-- All rows of a table. -/
def ofTable (name : String) : Except QueryError BaseQuery :=
  if isTableName name then .ok ⟨"SELECT * FROM " ++ name ++ " WHERE 1=1"⟩ else .error .tableName

/-- All rows of a query given as text, named `asName` in the base query. -/
def ofRaw (asName source : String) : Except QueryError BaseQuery :=
  if isSelect source then .ok ⟨"SELECT * FROM (" ++ cleaned source ++ ") as " ++ asName ++ " WHERE 1=1"⟩
  else .error .notSelect

/-- All rows of a table whose name may be missing. -/
def ofNamed (name : Option String) : Except QueryError BaseQuery :=
  name.elim (.error .tableName) ofTable

/-- All rows of a query that may be missing. -/
def ofGiven (asName : String) (source : Option String) : Except QueryError BaseQuery :=
  source.elim (.error .notSelect) (ofRaw asName)

/-- The query with the least and the greatest value of a column, over the rows that also meet a
    condition. -/
def boundsQuery (asName minColumn maxColumn : String) (base : BaseQuery) (column condition : String) :
    BaseQuery :=
  ⟨"SELECT MIN(" ++ column ++ ") as " ++ minColumn ++ ", MAX(" ++ column ++ ") as " ++ maxColumn ++
    " FROM (" ++ base.text ++ condition ++ ") as " ++ asName⟩

/-- The query shown with its type. -/
def display (base : BaseQuery) : String :=
  "SqlQuery(" ++ quoted base.text ++ ")"

end BaseQuery

end SplitExport.Sql
