import QueryLint.Dialect.Basic

/-!
Syntax trees of queries. Every node carries the span of the source that it was read from. An
empty name or alias stands for one that was not written. `Expr.missing` and `TableRef.missing`
fill the place of an operand or source that could not be read; the parser reports an error
whenever it puts one into a tree.
-/

namespace QueryLint

/-- A dotted name in an expression. Of `a.b.c` the first segment is the `table`, the second the
`column` and the others are `fields`; whether the first names a source or a structure column is
decided by who reads the tree. -/
structure ColumnRef where
  span : Span := {}
  table : String := ""
  column : String := ""
  fields : List String := []
deriving DecidableEq, Repr, Inhabited

namespace ColumnRef

def path (ref : ColumnRef) : List String :=
  (if ref.table.isEmpty then [] else [ref.table]) ++ ref.column :: ref.fields

def name (ref : ColumnRef) : String := ".".intercalate ref.path

end ColumnRef

inductive LiteralKind where
  | number
  | string
  | bool
  | null
deriving DecidableEq, Repr, Inhabited

def LiteralKind.text : LiteralKind → String
  | .number => "number"
  | .string => "string"
  | .bool => "bool"
  | .null => "null"

/-- A constant; `typeName` is the word before a typed string such as `DATE '2024-01-01'`. -/
structure Literal where
  span : Span := {}
  kind : LiteralKind
  value : String
  typeName : String := ""
deriving DecidableEq, Repr, Inhabited

inductive SetOperator where
  | union
  | intersect
  | except
deriving DecidableEq, Repr, Inhabited

def SetOperator.text : SetOperator → String
  | .union => "UNION"
  | .intersect => "INTERSECT"
  | .except => "EXCEPT"

inductive FrameUnit where
  | rows
  | range
  | groups
deriving DecidableEq, Repr, Inhabited

def FrameUnit.text : FrameUnit → String
  | .rows => "ROWS"
  | .range => "RANGE"
  | .groups => "GROUPS"

/-- Where a frame begins or ends. The last two kinds count rows or values by an offset. -/
inductive FrameBound where
  | unboundedPreceding
  | unboundedFollowing
  | currentRow
  | offsetPreceding
  | offsetFollowing
deriving DecidableEq, Repr, Inhabited

/-- The bound in words, with `EXPR` for its offset. -/
def FrameBound.text : FrameBound → String
  | .unboundedPreceding => "UNBOUNDED PRECEDING"
  | .unboundedFollowing => "UNBOUNDED FOLLOWING"
  | .currentRow => "CURRENT ROW"
  | .offsetPreceding => "EXPR PRECEDING"
  | .offsetFollowing => "EXPR FOLLOWING"

/-- The shape of a window frame; a frame without `last` ends at the current row. -/
structure Frame where
  unit : FrameUnit
  first : FrameBound
  last : Option FrameBound := none
deriving DecidableEq, Repr, Inhabited

/-- What a function call says besides its arguments. The name is in upper case and without a
leading `SAFE.`. -/
structure CallHead where
  span : Span := {}
  name : String
  safe : Bool := false
  distinct : Bool := false
  /-- Whether the argument is a star. -/
  star : Bool := false
  nullHandling : String := ""
deriving DecidableEq, Repr, Inhabited

/-- A table path. All segments before the last two are the `project`. -/
structure TableName where
  span : Span := {}
  project : String := ""
  dataset : String := ""
  name : String := ""
  aliasName : String := ""
  aliasSpan : Span := {}
deriving DecidableEq, Repr, Inhabited

namespace TableName

def path (table : TableName) : String :=
  let part (segment : String) : String := if segment.isEmpty then "" else segment ++ "."
  part table.project ++ part table.dataset ++ table.name

/-- The name under which the table is known in the query. -/
def exposedName (table : TableName) : String :=
  if table.aliasName.isEmpty then table.name else table.aliasName

end TableName

/-- Columns that become one row of an unpivoted source, with the label of that row. -/
structure UnpivotGroup where
  columns : List ColumnRef
  aliasName : String := ""
deriving DecidableEq, Repr, Inhabited

mutual

inductive Expr where
  | missing
  | column (ref : ColumnRef)
  | literal (literal : Literal)
  | binary (span : Span) (left : Expr) (operator : TokenKind) (right : Expr)
  | unary (span : Span) (operator : TokenKind) (operand : Expr)
  | call (head : CallHead) (arguments : List Expr) (orderBy : List OrderItem)
      (limit : Option Expr) (window : Option WindowSpec)
  | case (span : Span) (operand : Option Expr) (branches : List CaseBranch)
      (otherwise : Option Expr)
  | cast (span : Span) (operand : Expr) (typeName : String) (safe : Bool)
  | inValues (span : Span) (operand : Expr) (negated : Bool) (values : List Expr)
  | inQuery (span : Span) (operand : Expr) (negated : Bool) (query : Query)
  | inUnnest (span : Span) (operand : Expr) (negated : Bool) (array : Expr)
  | between (span : Span) (operand : Expr) (negated : Bool) (low high : Expr)
  | isNull (span : Span) (operand : Expr) (negated : Bool)
  | isBool (span : Span) (operand : Expr) (negated value : Bool)
  | like (span : Span) (operand : Expr) (negated : Bool) (pattern : Expr)
  | paren (span : Span) (inner : Expr)
  /-- A star with the path before it. -/
  | star (span : Span) (table : String)
  /-- A query as a value; with `array` all its rows are one array. -/
  | subquery (span : Span) (query : Query) (array : Bool)
  | exists (span : Span) (query : Query)
  | struct (span : Span) (typeName : String) (fields : List NamedExpr)
  | array (span : Span) (typeName : String) (elements : List Expr)
  /-- An element of an array; `mode` is the accessor word around the index. -/
  | index (span : Span) (operand index : Expr) (mode : String)
  | field (span : Span) (operand : Expr) (name : String)
  | extract (span : Span) (part : String) (operand : Expr)
  | interval (span : Span) (value : Expr) (unit toUnit : String)

structure NamedExpr where
  expr : Expr
  name : String

structure CaseBranch where
  condition : Expr
  result : Expr

structure OrderItem where
  expr : Expr
  descending : Bool
  nullsFirst : Option Bool

/-- A window, or a reference to a named one. The offsets belong to the bounds of the frame. -/
structure WindowSpec where
  span : Span
  name : String
  partitionBy : List Expr
  orderBy : List OrderItem
  frame : Option Frame
  firstOffset : Option Expr
  lastOffset : Option Expr

structure NamedWindow where
  name : String
  spec : WindowSpec

structure Query where
  span : Span
  definitions : Option WithClause
  body : QueryBody

structure WithClause where
  span : Span
  recursive : Bool
  ctes : List Cte

/-- A named query with its written column list. It has no `query` when its text could not be
read. -/
structure Cte where
  span : Span
  name : String
  nameSpan : Span
  columns : List String
  query : Option Query

/-- A query without its definitions: one operand, or operands combined from right to left. -/
inductive QueryBody where
  | single (span : Span) (operand : Operand)
  | combined (span : Span) (left : Operand) (operator : SetOperator) (all : Bool)
      (right : QueryBody)

inductive Operand where
  | block (block : SelectBlock)
  | nested (query : Query)

/-- One `SELECT` with the clauses that belong to it. `asKind` is the word after `SELECT AS`,
`orderByPosition` the place where the ordering begins, and `extensions` holds what clauses without
a place of their own have read. -/
structure SelectBlock where
  span : Span
  distinct : Bool
  asKind : String
  items : List SelectItem
  source : Option FromClause
  filter : Option Expr
  groupBy : List Expr
  having : Option Expr
  windows : List NamedWindow
  qualify : Option Expr
  orderBy : List OrderItem
  orderByPosition : Position
  limit : Option Expr
  offset : Option Expr
  extensions : List Expr

inductive SelectItem where
  | star (span : Span) (modifiers : List StarModifier)
  | tableStar (span : Span) (table : String) (modifiers : List StarModifier)
  | expr (span : Span) (expr : Expr) (aliasName : String) (aliasSpan : Span)

inductive StarModifier where
  | except (columns : List String)
  | replace (items : List NamedExpr)

structure FromClause where
  span : Span
  source : TableRef
  joins : List Join

structure Join where
  span : Span
  kind : JoinKind
  natural : Bool
  right : TableRef
  condition : Option Expr
  columns : List ColumnRef

inductive TableRef where
  | missing
  | table (table : TableName)
  | derived (span : Span) (query : Query) (aliasName : String)
  | function (span : Span) (call : Expr) (aliasName : String) (withOffset : Bool)
      (offsetAlias : String)
  | pivot (span : Span) (source : TableRef) (aggregates : List NamedExpr)
      (forColumn : ColumnRef) (values : List NamedExpr) (aliasName : String)
  | unpivot (span : Span) (source : TableRef) (valueColumns : List String) (nameColumn : String)
      (groups : List UnpivotGroup) (aliasName : String)

end

end QueryLint
