import QueryLint.Lint.Rule
import QueryLint.Syntax.Walk

/-!
An ordering has an effect only where the order of rows can be seen: in the outermost query, in
parentheses that are all of it, in a query that becomes an array, and where rows are kept by
number.
-/

namespace QueryLint.Ordering

inductive Visibility where
  | hidden
  /-- The rows are the result. -/
  | result
  /-- The rows become an array. -/
  | array
deriving DecidableEq, Repr, Inhabited

def visibilityBelow (visibility : Visibility) : Node → Visibility
  | .query _ => if visibility = .result then .result else .hidden
  | .body (.single _ (.nested _)) => visibility
  | .expr (.subquery _ _ true) => .array
  | _ => .hidden

def ordersAll (block : SelectBlock) : Bool := !block.orderBy.isEmpty && !block.hasLimit

def vainBlocks (visibility : Visibility) : Node → List SelectBlock
  | .query query => if visibility = .hidden then query.body.blocks.filter ordersAll else []
  | _ => []

def vain (visibility : Visibility) (node : Node) : List SelectBlock :=
  vainBlocks visibility node ++
    node.children.attach.flatMap fun ⟨child, _⟩ => vain (visibilityBelow visibility node) child
termination_by node.size
decreasing_by exact Node.size_lt_of_mem_children ‹_›

def message : String :=
  "Unnecessary ORDER BY: This ORDER BY clause has no effect without LIMIT/OFFSET or in " ++
    "aggregate functions"

def check (query : Query) (_ : Option Dialect) (_ : Settings) : List Finding :=
  (vain .result (.query query)).map fun block => ⟨message, { start := block.orderByPosition }⟩

def rule : Rule where
  id := "ST02"
  name := "structure.unnecessary_order_by"
  group := "structure"
  description := "ORDER BY in a CTE or subquery without LIMIT has no effect."
  severity := .warning
  impact := .low
  rationale := "BigQuery does not preserve the order of rows produced by a CTE or a\n" ++
    "subquery. Sorting there only costs slots, unless a LIMIT or OFFSET keeps a\n" ++
    "subset of the sorted rows."
  badExample := "WITH recent AS (\n    SELECT id, created_at\n    FROM dataset.events\n" ++
    "    ORDER BY created_at DESC\n)\nSELECT id FROM recent"
  goodExample := "WITH recent AS (\n    SELECT id, created_at\n    FROM dataset.events\n" ++
    "    ORDER BY created_at DESC\n    LIMIT 100\n)\nSELECT id FROM recent"
  fix := "Drop the ORDER BY, or move it to the outermost query."
  check := check

end QueryLint.Ordering
