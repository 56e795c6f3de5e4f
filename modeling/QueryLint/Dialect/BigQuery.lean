import QueryLint.Dialect.Standard

/-!
The BigQuery dialect of SQL, and the dialects that can be chosen by name.
-/

namespace QueryLint.Dialect

namespace BigQuery

/-! ### Words that only this dialect reserves -/

def qualify : TokenKind := .word "QUALIFY"
def pivot : TokenKind := .word "PIVOT"
def unpivot : TokenKind := .word "UNPIVOT"
def forWord : TokenKind := .word "FOR"
def array : TokenKind := .word "ARRAY"
def struct : TokenKind := .word "STRUCT"
def replace : TokenKind := .word "REPLACE"

/-- The words in the order in which they were reserved. -/
def words : List String :=
  ["QUALIFY", "PIVOT", "UNPIVOT", "FOR", "ARRAY", "STRUCT", "REPLACE"]

def clauses : List ClauseRule :=
  [Standard.whereClause, Standard.groupByClause, Standard.havingClause,
    Standard.qualifyClause qualify, Standard.windowClause, Standard.orderByClause,
    Standard.limitClause, Standard.offsetClause]

/-! ### Function names and types -/

def aggregates : List String := [
  "ANY_VALUE", "APPROX_COUNT_DISTINCT", "APPROX_QUANTILES", "APPROX_TOP_COUNT", "APPROX_TOP_SUM",
  "ARRAY_AGG", "ARRAY_CONCAT_AGG", "AVG", "BIT_AND", "BIT_OR", "BIT_XOR", "CORR", "COUNT",
  "COUNTIF", "COVAR_POP", "COVAR_SAMP", "GROUPING", "LOGICAL_AND", "LOGICAL_OR", "MAX", "MAX_BY",
  "MIN", "MIN_BY", "STDDEV", "STDDEV_POP", "STDDEV_SAMP", "STRING_AGG", "SUM", "VAR_POP",
  "VAR_SAMP", "VARIANCE"]

def windows : List String := [
  "CUME_DIST", "DENSE_RANK", "FIRST_VALUE", "LAG", "LAST_VALUE", "LEAD", "NTH_VALUE", "NTILE",
  "PERCENT_RANK", "PERCENTILE_CONT", "PERCENTILE_DISC", "RANK", "ROW_NUMBER"]

def generators : List String := [
  "CURRENT_DATE", "CURRENT_DATETIME", "CURRENT_TIME", "CURRENT_TIMESTAMP", "GENERATE_UUID",
  "RAND", "SESSION_USER"]

def tableFunctions : List String := [
  "APPENDS", "CHANGES", "EXTERNAL_QUERY", "UNNEST", "VECTOR_SEARCH"]

def dataTypes : List String := [
  "ARRAY", "BIGNUMERIC", "BOOL", "BYTES", "DATE", "DATETIME", "FLOAT64", "GEOGRAPHY", "INT64",
  "INTERVAL", "JSON", "NUMERIC", "RANGE", "STRING", "STRUCT", "TIME", "TIMESTAMP"]

def reserved : List String := [
  "ALL", "AND", "ANY", "ARRAY", "AS", "ASC", "ASSERT_ROWS_MODIFIED", "AT", "BETWEEN", "BY",
  "CASE", "CAST", "COLLATE", "CONTAINS", "CREATE", "CROSS", "CUBE", "CURRENT", "DEFAULT",
  "DEFINE", "DESC", "DISTINCT", "ELSE", "END", "ENUM", "ESCAPE", "EXCEPT", "EXCLUDE", "EXISTS",
  "EXTRACT", "FALSE", "FETCH", "FOLLOWING", "FOR", "FROM", "FULL", "GROUP", "GROUPING", "GROUPS",
  "HASH", "HAVING", "IF", "IGNORE", "IN", "INNER", "INTERSECT", "INTERVAL", "INTO", "IS", "JOIN",
  "LATERAL", "LEFT", "LIKE", "LIMIT", "LOOKUP", "MERGE", "NATURAL", "NEW", "NO", "NOT", "NULL",
  "NULLS", "OF", "ON", "OR", "ORDER", "OUTER", "OVER", "PARTITION", "PRECEDING", "PROTO",
  "QUALIFY", "RANGE", "RECURSIVE", "RESPECT", "RIGHT", "ROLLUP", "ROWS", "SELECT", "SET", "SOME",
  "STRUCT", "TABLESAMPLE", "THEN", "TO", "TREAT", "TRUE", "UNBOUNDED", "UNION", "UNNEST",
  "USING", "WHEN", "WHERE", "WINDOW", "WITH", "WITHIN"]

end BigQuery

def bigQuery : Dialect :=
  ({ name := "bigquery"
     quoting := { opening := "`", closing := "`", escape := "\\`" }
     nameCase := .insensitive } : Dialect)
  |> BigQuery.words.foldl (fun dialect word => dialect.addWord word (.word word))
  |>.withClauses BigQuery.clauses
  |>.addOperators Standard.operators
  |>.addOperators Standard.bitwiseOperators
  |>.addJoins Standard.joins
  |>.addStarForm Keyword.EXCEPT .except
  |>.addStarForm BigQuery.replace .replace
  |>.addOpeningForm Symbol.leftBracket .arrayLiteral
  |>.addOpeningForm BigQuery.array .array
  |>.addOpeningForm BigQuery.struct .struct
  |>.addOperator Symbol.leftBracket Precedence.postfixed
  |>.addContinuingForm Symbol.leftBracket .subscript
  |>.addSourceForm BigQuery.pivot .pivot
  |>.addSourceForm BigQuery.unpivot .unpivot
  |>.addAggregates BigQuery.aggregates
  |>.addGenerators BigQuery.generators
  |>.addWindows BigQuery.windows
  |>.addTableFunctions BigQuery.tableFunctions
  |>.addReserved BigQuery.reserved
  |>.addDataTypes BigQuery.dataTypes

/-! ### Choosing a dialect -/

def registered : List Dialect := [bigQuery]

/-- The registered dialect of a name, up to letter case and white space around it. -/
def ofName? (name : String) : Option Dialect :=
  registered.find? (Text.lower ·.name == Text.lower (Text.trim name))

def names : List String := (registered.map (Text.lower ·.name)).mergeSort

def unknownMessage (name : String) : String :=
  "unknown dialect " ++ Text.quoted name ++ " (available: " ++ ", ".intercalate names ++ ")"

def isKnownClause (kind : TokenKind) : Bool := BigQuery.clauses.any (·.kind == kind)

end QueryLint.Dialect
