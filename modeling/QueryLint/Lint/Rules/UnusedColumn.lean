import QueryLint.Lint.Rule
import QueryLint.Setting.Decode
import QueryLint.Usage.Collect

/-!
Columns of named queries that nothing reads. Columns that are kept on purpose can be named in an
option; options that cannot be read count as absent.
-/

namespace QueryLint.UnusedColumn

def ignored (options : Settings) : List String :=
  (Settings.decode? options (do
    let columns ← Settings.take Setting.toTexts? "ignore_columns" []
    Settings.finish
    return columns)).getD []

def check (query : Query) (_ : Option Dialect) (options : Settings) : List Finding :=
  if query.definitions.isNone then []
  else
    let keys := (ignored options).map Text.fold
    ((Usage.analyze query).filter fun violation => !keys.contains (Text.fold violation.column)).map
      fun violation => ⟨violation.message, violation.span⟩

def rule : Rule where
  id := "ST01"
  name := "structure.unused_cte_column"
  group := "structure"
  description := "CTE columns should be consumed by a downstream query."
  severity := .warning
  impact := .high
  configKeys := ["ignore_columns"]
  rationale := "A column selected in a CTE but never referenced afterwards is dead weight.\n" ++
    "In BigQuery every selected column of a base table is scanned and billed, so an\n" ++
    "unused column projected from a wide table costs money on every run. It also\n" ++
    "misleads readers about which data the query depends on."
  badExample := "WITH users AS (\n    SELECT id, name, email\n    FROM dataset.users\n)\n" ++
    "SELECT id, name FROM users"
  goodExample := "WITH users AS (\n    SELECT id, name\n    FROM dataset.users\n)\n" ++
    "SELECT id, name FROM users"
  fix := "Remove the column from the CTE, or add it to ignore_columns if it is kept on purpose."
  check := check

end QueryLint.UnusedColumn
