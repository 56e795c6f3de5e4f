import QueryLint.Proofs.Usage.Outline

/-!
Deleting one select item of a named query. The named queries of a statement are counted in the
order in which they are visited, those inside a named query before it; parts that are not visited
are not counted and stay as they are.
-/

namespace QueryLint

def SelectBlock.withItems (block : SelectBlock) (items : List SelectItem) : SelectBlock :=
  { block with items }

namespace Usage

/-- Which select item of which definition is deleted, and the output column that it gives. -/
structure Deletion where
  definition : Nat
  item : Nat
  column : Nat

namespace Deletion

/-- A named query whose body is a single block, without the item and its entry of the written
column list. -/
def ofCte (deletion : Deletion) : Cte → Cte
  | ⟨span, name, nameSpan, names, some ⟨querySpan, definitions, .single bodySpan (.block block)⟩⟩ =>
    ⟨span, name, nameSpan, names.eraseIdx deletion.column,
      some ⟨querySpan, definitions, .single bodySpan
        (.block (block.withItems (block.items.eraseIdx deletion.item)))⟩⟩
  | cte => cte

/-- A tree after the deletion; the state counts the definitions before it. -/
abbrev Counting := StateM Nat

mutual

def ofExpr (deletion : Deletion) : Expr → Counting Expr
  | .missing => pure .missing
  | .column ref => pure (.column ref)
  | .literal constant => pure (.literal constant)
  | .star span table => pure (.star span table)
  | .binary span left operator right => do
    let left ← deletion.ofExpr left
    let right ← deletion.ofExpr right
    return .binary span left operator right
  | .unary span operator operand => do
    return .unary span operator (← deletion.ofExpr operand)
  | .call head arguments orderBy limit window => do
    let arguments ← deletion.ofExprs arguments
    let orderBy ← deletion.ofOrder orderBy
    let limit ← deletion.ofOptional limit
    let window ← deletion.ofOver window
    return .call head arguments orderBy limit window
  | .case span operand branches otherwise => do
    let operand ← deletion.ofOptional operand
    let branches ← deletion.ofBranches branches
    let otherwise ← deletion.ofOptional otherwise
    return .case span operand branches otherwise
  | .cast span operand typeName safe => do
    return .cast span (← deletion.ofExpr operand) typeName safe
  | .inValues span operand negated values => do
    let operand ← deletion.ofExpr operand
    let values ← deletion.ofExprs values
    return .inValues span operand negated values
  | .inQuery span operand negated query => do
    let operand ← deletion.ofExpr operand
    let query ← deletion.ofQuery false query
    return .inQuery span operand negated query
  | .inUnnest span operand negated array => do
    let operand ← deletion.ofExpr operand
    let array ← deletion.ofExpr array
    return .inUnnest span operand negated array
  | .between span operand negated low high => do
    let operand ← deletion.ofExpr operand
    let low ← deletion.ofExpr low
    let high ← deletion.ofExpr high
    return .between span operand negated low high
  | .isNull span operand negated => do
    return .isNull span (← deletion.ofExpr operand) negated
  | .isBool span operand negated value => do
    return .isBool span (← deletion.ofExpr operand) negated value
  | .like span operand negated pattern => do
    let operand ← deletion.ofExpr operand
    let pattern ← deletion.ofExpr pattern
    return .like span operand negated pattern
  | .paren span inner => do
    return .paren span (← deletion.ofExpr inner)
  | .subquery span query array => do
    return .subquery span (← deletion.ofQuery array query) array
  | .exists span query => do
    return .exists span (← deletion.ofQuery false query)
  | .struct span typeName fields => do
    return .struct span typeName (← deletion.ofNamed fields)
  | .array span typeName elements => do
    return .array span typeName (← deletion.ofExprs elements)
  | .index span operand index mode => do
    let operand ← deletion.ofExpr operand
    let index ← deletion.ofExpr index
    return .index span operand index mode
  | .field span operand name => do
    return .field span (← deletion.ofExpr operand) name
  | .extract span part operand => do
    return .extract span part (← deletion.ofExpr operand)
  | .interval span value unit toUnit => do
    return .interval span (← deletion.ofExpr value) unit toUnit

def ofExprs (deletion : Deletion) : List Expr → Counting (List Expr)
  | [] => pure []
  | expr :: rest => do
    let expr ← deletion.ofExpr expr
    let rest ← deletion.ofExprs rest
    return expr :: rest

def ofOptional (deletion : Deletion) : Option Expr → Counting (Option Expr)
  | none => pure none
  | some expr => do return some (← deletion.ofExpr expr)

def ofNamed (deletion : Deletion) : List NamedExpr → Counting (List NamedExpr)
  | [] => pure []
  | ⟨expr, name⟩ :: rest => do
    let expr ← deletion.ofExpr expr
    let rest ← deletion.ofNamed rest
    return ⟨expr, name⟩ :: rest

def ofBranches (deletion : Deletion) : List CaseBranch → Counting (List CaseBranch)
  | [] => pure []
  | ⟨condition, result⟩ :: rest => do
    let condition ← deletion.ofExpr condition
    let result ← deletion.ofExpr result
    let rest ← deletion.ofBranches rest
    return ⟨condition, result⟩ :: rest

def ofOrder (deletion : Deletion) : List OrderItem → Counting (List OrderItem)
  | [] => pure []
  | ⟨expr, descending, nullsFirst⟩ :: rest => do
    let expr ← deletion.ofExpr expr
    let rest ← deletion.ofOrder rest
    return ⟨expr, descending, nullsFirst⟩ :: rest

def ofWindow (deletion : Deletion) : WindowSpec → Counting WindowSpec
  | ⟨span, name, partitionBy, orderBy, frame, firstOffset, lastOffset⟩ => do
    let partitionBy ← deletion.ofExprs partitionBy
    let orderBy ← deletion.ofOrder orderBy
    let firstOffset ← deletion.ofOptional firstOffset
    let lastOffset ← deletion.ofOptional lastOffset
    return ⟨span, name, partitionBy, orderBy, frame, firstOffset, lastOffset⟩

def ofOver (deletion : Deletion) : Option WindowSpec → Counting (Option WindowSpec)
  | none => pure none
  | some window => do return some (← deletion.ofWindow window)

def ofWindows (deletion : Deletion) : List NamedWindow → Counting (List NamedWindow)
  | [] => pure []
  | ⟨name, window⟩ :: rest => do
    let window ← deletion.ofWindow window
    let rest ← deletion.ofWindows rest
    return ⟨name, window⟩ :: rest

def ofQuery (deletion : Deletion) (final : Bool) : Query → Counting Query
  | ⟨span, definitions, body⟩ => do
    let definitions ← deletion.ofWith definitions
    let body ← deletion.ofBody final true body
    return ⟨span, definitions, body⟩

def ofWith (deletion : Deletion) : Option WithClause → Counting (Option WithClause)
  | none => pure none
  | some ⟨span, recursive, ctes⟩ => do
    return some ⟨span, recursive, ← deletion.ofCtes ctes⟩

/-- A definition is counted after those inside it. -/
def ofCtes (deletion : Deletion) : List Cte → Counting (List Cte)
  | [] => pure []
  | ⟨span, name, nameSpan, names, none⟩ :: rest => do
    modify (· + 1)
    let rest ← deletion.ofCtes rest
    return ⟨span, name, nameSpan, names, none⟩ :: rest
  | ⟨span, name, nameSpan, names, some query⟩ :: rest => do
    let inner ← deletion.ofQuery false query
    let count ← get
    modify (· + 1)
    let rest ← deletion.ofCtes rest
    return (if count = deletion.definition then
        deletion.ofCte ⟨span, name, nameSpan, names, some query⟩
      else ⟨span, name, nameSpan, names, some inner⟩) :: rest

def ofBody (deletion : Deletion) (final first : Bool) : QueryBody → Counting QueryBody
  | .single span (.block block) => do
    return .single span (.block (← deletion.ofBlock final block))
  | .single span (.nested query) => do
    return .single span (.nested (← deletion.ofQuery (final && first) query))
  | .combined span (.block block) operator all right => do
    let block ← deletion.ofBlock final block
    let right ← deletion.ofBody final false right
    return .combined span (.block block) operator all right
  | .combined span (.nested query) operator all right => do
    let query ← deletion.ofQuery false query
    let right ← deletion.ofBody final false right
    return .combined span (.nested query) operator all right

def ofBlock (deletion : Deletion) (final : Bool) : SelectBlock → Counting SelectBlock
  | ⟨span, distinct, asKind, items, source, filter, groupBy, having, windows, qualify, orderBy,
      orderByPosition, limit, offset, extensions⟩ => do
    let source ← deletion.ofFrom source
    let filter ← deletion.ofOptional filter
    let groupBy ← deletion.ofExprs groupBy
    let having ← deletion.ofOptional having
    let windows ← deletion.ofWindows windows
    let qualify ← deletion.ofOptional qualify
    let orderBy ← (if final || (limit.isSome || offset.isSome) then deletion.ofOrder orderBy
      else pure orderBy)
    let items ← deletion.ofItems items
    return ⟨span, distinct, asKind, items, source, filter, groupBy, having, windows, qualify, orderBy,
      orderByPosition, limit, offset, extensions⟩

def ofItems (deletion : Deletion) : List SelectItem → Counting (List SelectItem)
  | [] => pure []
  | .star span modifiers :: rest => do
    let modifiers ← deletion.ofModifiers modifiers
    let rest ← deletion.ofItems rest
    return .star span modifiers :: rest
  | .tableStar span table modifiers :: rest => do
    let modifiers ← deletion.ofModifiers modifiers
    let rest ← deletion.ofItems rest
    return .tableStar span table modifiers :: rest
  | .expr span expr aliasName aliasSpan :: rest => do
    let expr ← deletion.ofExpr expr
    let rest ← deletion.ofItems rest
    return .expr span expr aliasName aliasSpan :: rest

def ofModifiers (deletion : Deletion) : List StarModifier → Counting (List StarModifier)
  | [] => pure []
  | .except columns :: rest => do
    let rest ← deletion.ofModifiers rest
    return .except columns :: rest
  | .replace items :: rest => do
    let items ← deletion.ofNamed items
    let rest ← deletion.ofModifiers rest
    return .replace items :: rest

def ofFrom (deletion : Deletion) : Option FromClause → Counting (Option FromClause)
  | none => pure none
  | some ⟨span, source, joins⟩ => do
    let source ← deletion.ofSource source
    let joins ← deletion.ofJoins joins
    return some ⟨span, source, joins⟩

def ofJoins (deletion : Deletion) : List Join → Counting (List Join)
  | [] => pure []
  | ⟨span, kind, natural, right, condition, columns⟩ :: rest => do
    let right ← deletion.ofSource right
    let condition ← deletion.ofOptional condition
    let rest ← deletion.ofJoins rest
    return ⟨span, kind, natural, right, condition, columns⟩ :: rest

def ofSource (deletion : Deletion) : TableRef → Counting TableRef
  | .missing => pure .missing
  | .table table => pure (.table table)
  | .derived span query aliasName => do
    return .derived span (← deletion.ofQuery false query) aliasName
  | .function span call aliasName withOffset offsetAlias => do
    return .function span (← deletion.ofExpr call) aliasName withOffset offsetAlias
  | .pivot span source aggregates forColumn values aliasName => do
    let source ← deletion.ofSource source
    let aggregates ← deletion.ofNamed aggregates
    let values ← deletion.ofNamed values
    return .pivot span source aggregates forColumn values aliasName
  | .unpivot span source valueColumns nameColumn groups aliasName => do
    return .unpivot span (← deletion.ofSource source) valueColumns nameColumn groups aliasName

end

end Deletion

/-- The statement without the select item. -/
def Deletion.apply (deletion : Deletion) (query : Query) : Query :=
  (deletion.ofQuery true query 0).1

end Usage

end QueryLint
