import QueryLint.Lint.Rule
import QueryLint.Syntax.Walk

/-!
A filter on the suffix of a wildcard table narrows the scan only if it is constant. Comparing the
suffix with a query reads every table.
-/

namespace QueryLint.TableSuffix

def comparisons : List Symbol := [.equal, .notEqual, .less, .greater, .lessEqual, .greaterEqual]

def isComparison (operator : TokenKind) : Bool :=
  comparisons.any fun symbol => operator == .symbol symbol

def isSuffix (expr : Expr) : Bool :=
  match expr.unwrap with
  | .column ref => ref.fields.isEmpty && Text.sameIgnoringCase ref.column "_TABLE_SUFFIX"
  | _ => false

def subquerySpan? (expr : Expr) : Option Span :=
  match expr.unwrap with
  | .subquery span _ _ => some span
  | _ => none

/-- The query with which a node compares the suffix. -/
def offence? : Node → Option Span
  | .expr (.binary _ left operator right) =>
    if isComparison operator && isSuffix left then subquerySpan? right else none
  | .expr (.inQuery _ operand _ query) => if isSuffix operand then some query.span else none
  | .expr (.between _ operand _ low high) =>
    if isSuffix operand then (subquerySpan? low).or (subquerySpan? high) else none
  | _ => none

def staysInBlock : Node → Bool
  | .query _ => false
  | _ => true

def checkBlock (block : SelectBlock) : List Finding :=
  (block.filter.toList.flatMap fun filter =>
    ((Node.expr filter).walk staysInBlock).filterMap offence?).map fun span =>
      ⟨"Full scan will cause! Should not compare _TABLE_SUFFIX with subquery", span⟩

def check (query : Query) (_ : Option Dialect) (_ : Settings) : List Finding :=
  query.blocks.flatMap checkBlock

def rule : Rule where
  id := "PF01"
  name := "performance.table_suffix_subquery"
  group := "performance"
  description := "Do not compare _TABLE_SUFFIX with a subquery."
  severity := .error
  impact := .critical
  rationale := "BigQuery only prunes the tables matched by a wildcard table when the\n" ++
    "_TABLE_SUFFIX filter is a constant expression. Comparing it with a subquery\n" ++
    "scans and bills every matching table."
  badExample := "SELECT * FROM `project.dataset.events_*`\n" ++
    "WHERE _TABLE_SUFFIX > (SELECT MAX(suffix) FROM dataset.loaded)"
  goodExample :=
    "DECLARE last_suffix STRING DEFAULT (SELECT MAX(suffix) FROM dataset.loaded);\n" ++
    "SELECT * FROM `project.dataset.events_*`\n" ++
    "WHERE _TABLE_SUFFIX > last_suffix"
  fix := "Compute the bound first, in a script variable or query parameter."
  check := check

end QueryLint.TableSuffix
