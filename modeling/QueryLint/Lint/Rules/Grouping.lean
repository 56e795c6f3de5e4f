import QueryLint.Lint.Rule
import QueryLint.Syntax.Walk

/-!
A grouped block may read a column outside of aggregates only if the column is grouped. Grouping
keys are columns, paths, places in the select list and aliases; a key that is an expression makes
every column in it a key.
-/

namespace QueryLint.Grouping

def aggregates : List String :=
  ["COUNT", "SUM", "AVG", "MAX", "MIN", "ANY_VALUE", "ARRAY_AGG", "STRING_AGG", "COUNTIF"]

def keyFunctions : List String := ["ROLLUP", "CUBE", "GROUPING SETS", "GROUPING_SETS"]

/-- Names that read like columns and are functions of none. -/
def constants : List String :=
  ["current_date", "current_datetime", "current_time", "current_timestamp"]

structure Keys where
  names : List String := []
  ordinals : List Nat := []
deriving DecidableEq, Repr, Inhabited

namespace Keys

def append (a b : Keys) : Keys := ⟨a.names ++ b.names, a.ordinals ++ b.ordinals⟩

def ofRefs (node : Node) : Keys :=
  { names := node.columnRefs.flatMap fun ref => [Text.fold ref.column, Text.fold ref.name] }

def ordinal? (literal : Literal) : Option Nat :=
  if literal.kind == .number && !literal.value.isEmpty && literal.value.all Char.isDigit then
    literal.value.toNat?
  else none

theorem size_lt_of_unwrap_eq_call {expr : Expr} {head : CallHead} {arguments : List Expr}
    {orderBy : List OrderItem} {limit : Option Expr} {window : Option WindowSpec}
    (h : expr.unwrap = .call head arguments orderBy limit window) :
    sizeOf arguments < sizeOf expr := by
  fun_induction Expr.unwrap expr with
  | case1 span inner ih =>
    have := ih h
    simp
    omega
  | case2 bare =>
    subst h
    simp
    omega

def ofExpr (expr : Expr) : Keys :=
  match _shape : expr.unwrap with
  | .literal literal => { ordinals := (ordinal? literal).toList }
  | .call head arguments orderBy limit window =>
    if keyFunctions.contains head.name then
      arguments.attach.foldl (fun keys ⟨argument, _⟩ => keys.append (ofExpr argument)) {}
    else ofRefs (.expr (.call head arguments orderBy limit window))
  | bare => ofRefs (.expr bare)
termination_by sizeOf expr
decreasing_by
  have member := List.sizeOf_lt_of_mem ‹argument ∈ arguments›
  have outer := size_lt_of_unwrap_eq_call _shape
  omega

def ofBlock (block : SelectBlock) : Keys :=
  block.groupBy.foldl (fun keys expr => keys.append (ofExpr expr)) {}

/-- Whether a column reference needs no further grouping. A grouped structure covers the fields
that are read from it. -/
def covers (keys : Keys) (ref : ColumnRef) : Bool :=
  (ref.table.isEmpty && ref.fields.isEmpty && constants.contains (Text.fold ref.column)) ||
    keys.names.contains (Text.fold ref.name) || keys.names.contains (Text.fold ref.column) ||
    (!ref.table.isEmpty && keys.names.contains (Text.fold ref.table))

end Keys

def isAggregate (dialect : Option Dialect) (name : String) : Bool :=
  aggregates.contains name || dialect.any (·.isAggregate name)

/-- Whether the columns below a node are read once per group: those in nested queries, aggregates
and window functions are not. -/
def entersNode (dialect : Option Dialect) : Node → Bool
  | .query _ => false
  | .expr (.call head _ _ _ window) => window.isNone && !isAggregate dialect head.name
  | _ => true

def firstUngrouped? (dialect : Option Dialect) (keys : Keys) (expr : Expr) : Option ColumnRef :=
  (((Node.expr expr).walk (entersNode dialect)).filterMap Node.columnRef?).find? (!keys.covers ·)

def message (ref : ColumnRef) : String :=
  "Column '" ++ ref.name ++
    "' must appear in the GROUP BY clause or be used in an aggregate function"

/-- The finding for the select item at a place, counted from zero. -/
def checkItem? (dialect : Option Dialect) (keys : Keys) (item : SelectItem) (place : Nat) :
    Option Finding :=
  match item with
  | .expr _ expr aliasName _ =>
    if keys.ordinals.contains (place + 1) ||
        (!aliasName.isEmpty && keys.names.contains (Text.fold aliasName)) then none
    else (firstUngrouped? dialect keys expr).map fun ref => ⟨message ref, ref.span⟩
  | _ => none

def checkBlock (dialect : Option Dialect) (block : SelectBlock) : List Finding :=
  if block.groupBy.isEmpty then []
  else
    let keys := Keys.ofBlock block
    block.items.zipIdx.filterMap fun (item, place) => checkItem? dialect keys item place

def check (query : Query) (dialect : Option Dialect) (_ : Settings) : List Finding :=
  query.blocks.flatMap (checkBlock dialect)

def rule : Rule where
  id := "AM01"
  name := "ambiguous.invalid_group_by"
  group := "ambiguous"
  description := "Non-aggregated columns must appear in GROUP BY."
  severity := .error
  impact := .critical
  rationale := "BigQuery rejects a grouped query that selects a column which is neither\n" ++
    "listed in GROUP BY nor wrapped in an aggregate function. Catching it before\n" ++
    "the query is submitted saves a failed job."
  badExample := "SELECT user_id, country, COUNT(*) AS orders\n" ++
    "FROM dataset.orders\n" ++
    "GROUP BY user_id"
  goodExample := "SELECT user_id, ANY_VALUE(country) AS country, COUNT(*) AS orders\n" ++
    "FROM dataset.orders\n" ++
    "GROUP BY user_id"
  fix := "Add the column to GROUP BY or wrap it in an aggregate such as ANY_VALUE."
  check := check

end QueryLint.Grouping
