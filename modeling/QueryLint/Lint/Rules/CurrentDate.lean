import QueryLint.Lint.Rule
import QueryLint.Syntax.Walk

/-!
The current date makes the result of a query depend on when it runs.
-/

namespace QueryLint.CurrentDate

def readsDate : Node → Bool
  | .expr (.column ref) =>
    ref.table.isEmpty && ref.fields.isEmpty && Text.sameIgnoringCase ref.column "CURRENT_DATE"
  | .expr (.call head ..) => head.name == "CURRENT_DATE"
  | _ => false

def check (query : Query) (_ : Option Dialect) (_ : Settings) : List Finding :=
  ((Node.query query).descendants.filter readsDate).map fun node =>
    ⟨"CURRENT_DATE is used!", node.span⟩

def rule : Rule where
  id := "CV01"
  name := "convention.current_date"
  group := "convention"
  description := "Avoid CURRENT_DATE in favour of an explicit date parameter."
  severity := .warning
  impact := .low
  rationale := "A query that reads CURRENT_DATE returns different results depending on\n" ++
    "when it runs, and the date is evaluated in UTC unless a time zone is given.\n" ++
    "Backfills and reruns of scheduled queries silently compute the wrong day."
  badExample := "SELECT * FROM dataset.events\n" ++
    "WHERE event_date = CURRENT_DATE()"
  goodExample := "SELECT * FROM dataset.events\n" ++
    "WHERE event_date = @run_date"
  fix := "Pass the date in as a query parameter."
  check := check

end QueryLint.CurrentDate
