import QueryLint.Parser.Name
import QueryLint.Dialect.BigQuery

/-!
The special forms that a dialect may allow: array and structure literals, subscripts, modifiers
of a star, and pivoted sources.
-/

namespace QueryLint

namespace Grammar

open QueryLint.Parser QueryLint.Attempt

variable (grammar : Grammar)

def tryExpression : Attempt Expr := complete grammar.expression

/-! ### Arrays and structures -/

def arrayElements : Attempt (List Expr) := do
  let elements ← (if ← check Symbol.rightBracket then pure []
    else Attempt.commaSeparated (within "array literal" grammar.tryExpression))
  within "array literal: expected ]" (Attempt.expect Symbol.rightBracket)
  return elements

def arrayLiteral : Attempt Expr := do
  let start ← position
  advance
  let elements ← grammar.arrayElements
  return .array (← spanFrom start) "" elements

def array : Attempt Expr := do
  let start ← position
  let next ← lookahead
  match next.kind with
  | .symbol .leftParen =>
    advance
    advance
    let query ← within "ARRAY subquery" (complete grammar.query)
    within "ARRAY subquery: expected )" (Attempt.expect Symbol.rightParen)
    return .subquery (← spanFrom start) query true
  | .symbol .less =>
    let typeName ← within "ARRAY type" (complete typeName)
    within "typed array literal" (Attempt.expect Symbol.leftBracket)
    let elements ← grammar.arrayElements
    return .array (← spanFrom start) typeName elements
  | .symbol .leftBracket =>
    advance
    advance
    let elements ← grammar.arrayElements
    return .array (← spanFrom start) "" elements
  | _ => throw (.malformedArray next.span.start)

def structField : Attempt NamedExpr := do
  let expr ← within "STRUCT field" grammar.tryExpression
  if ← accept Keyword.AS then
    return ⟨expr, ← within "STRUCT field alias" identifier⟩
  else return ⟨expr, ""⟩

def struct : Attempt Expr := do
  let start ← position
  let typeName ← (if ← checkNext Symbol.less then within "STRUCT type" (complete typeName)
    else do
      advance
      pure "")
  within "STRUCT" (Attempt.expect Symbol.leftParen)
  let fields ← (if ← check Symbol.rightParen then pure []
    else Attempt.commaSeparated grammar.structField)
  within "STRUCT: expected )" (Attempt.expect Symbol.rightParen)
  return .struct (← spanFrom start) typeName fields

def opening : OpeningForm → Attempt Expr
  | .arrayLiteral => grammar.arrayLiteral
  | .array => grammar.array
  | .struct => grammar.struct

/-! ### Subscripts -/

/-- An accessor word around an index: the mode of the subscript and the index itself. -/
def subscriptMode : Expr → String × Expr
  | .call head [argument] orderBy limit window =>
    let call := Expr.call head [argument] orderBy limit window
    let mode := Text.upper head.name
    if ["OFFSET", "SAFE_OFFSET", "ORDINAL", "SAFE_ORDINAL"].contains mode then
      (if head.safe then "SAFE_" ++ mode else mode, argument)
    else ("", call)
  | index => ("", index)

def subscript (operand : Expr) : Attempt Expr := do
  let (mode, index) := subscriptMode (← within "array subscript" grammar.tryExpression)
  within "array subscript: expected ]" (Attempt.expect Symbol.rightBracket)
  return .index (← spanFrom operand.span.start) operand index mode

def continuing (operand : Expr) : ContinuingForm → Attempt Expr
  | .subscript => grammar.subscript operand

/-! ### Modifiers of a star -/

def exceptModifier : Attempt StarModifier := within "EXCEPT" do
  Attempt.expect Symbol.leftParen
  let columns ← Attempt.commaSeparated identifier
  Attempt.expect Symbol.rightParen
  return .except columns

def replaceItem : Attempt NamedExpr := do
  let expr ← within "REPLACE" grammar.tryExpression
  within "REPLACE: expected AS after expression" (Attempt.expect Keyword.AS)
  return ⟨expr, ← within "REPLACE" identifier⟩

def replaceModifier : Attempt StarModifier := do
  within "REPLACE" (Attempt.expect Symbol.leftParen)
  let items ← Attempt.commaSeparated grammar.replaceItem
  within "REPLACE" (Attempt.expect Symbol.rightParen)
  return .replace items

def starModifier : StarForm → Attempt StarModifier
  | .except => exceptModifier
  | .replace => grammar.replaceModifier

/-! ### Pivoted sources -/

def trailingAlias : Attempt String := do
  if ← accept Keyword.AS then identifier
  else
    let token ← current
    if token.kind == .identifier then
      advance
      return token.text
    else return ""

def pivotAggregate : Attempt NamedExpr := do
  let expr ← within "PIVOT aggregate" grammar.tryExpression
  match expr with
  | .call .. => return ⟨expr, ← within "PIVOT aggregate alias" trailingAlias⟩
  | _ => throw (.pivotWithoutCall expr.span.start)

def pivotValue : Attempt NamedExpr := do
  let expr ← within "PIVOT IN value" grammar.tryExpression
  return ⟨expr, ← within "PIVOT IN value alias" trailingAlias⟩

def pivot (source : TableRef) : Attempt TableRef := do
  within "PIVOT" (Attempt.expect Symbol.leftParen)
  let aggregates ← Attempt.commaSeparated grammar.pivotAggregate
  within "PIVOT: expected FOR" (Attempt.expect Dialect.BigQuery.forWord)
  let forColumn ← within "PIVOT: expected column after FOR" Attempt.columnRef
  within "PIVOT: expected IN" (Attempt.expect Keyword.IN)
  within "PIVOT IN: expected (" (Attempt.expect Symbol.leftParen)
  let values ← Attempt.commaSeparated grammar.pivotValue
  within "PIVOT IN: expected )" (Attempt.expect Symbol.rightParen)
  within "PIVOT: expected closing )" (Attempt.expect Symbol.rightParen)
  let aliasName ← within "PIVOT alias" trailingAlias
  return .pivot (← spanFrom source.span.start) source aggregates forColumn values aliasName

def nullRows : Parser Unit := do
  let token ← current
  if token.kind == .identifier && (← checkNext Keyword.NULLS) then
    let word := Text.upper token.text
    if word == "INCLUDE" || word == "EXCLUDE" then
      advance
      advance

def valueColumns : Attempt (List String) := do
  if ← accept Symbol.leftParen then
    let names ← Attempt.commaSeparated (within "UNPIVOT value columns" identifier)
    within "UNPIVOT value columns: expected )" (Attempt.expect Symbol.rightParen)
    return names
  else return [← within "UNPIVOT: expected value column name" identifier]

def groupLabel : Attempt String := do
  if ← accept Keyword.AS then
    let token ← current
    if token.kind == .string || token.kind == .number then
      advance
      return token.text
    else within "UNPIVOT IN alias" identifier
  else return ""

def groupColumns : Attempt (List ColumnRef) := do
  if ← accept Symbol.leftParen then
    let columns ← Attempt.commaSeparated (within "UNPIVOT IN columns" Attempt.columnRef)
    within "UNPIVOT IN columns: expected )" (Attempt.expect Symbol.rightParen)
    return columns
  else return [← within "UNPIVOT IN: expected column name" Attempt.columnRef]

def unpivotGroup : Attempt UnpivotGroup := do
  let columns ← groupColumns
  return ⟨columns, ← groupLabel⟩

def unpivot (source : TableRef) : Attempt TableRef := do
  nullRows
  within "UNPIVOT" (Attempt.expect Symbol.leftParen)
  let valueColumns ← valueColumns
  within "UNPIVOT: expected FOR" (Attempt.expect Dialect.BigQuery.forWord)
  let nameColumn ← within "UNPIVOT: expected name column after FOR" identifier
  within "UNPIVOT: expected IN" (Attempt.expect Keyword.IN)
  within "UNPIVOT IN: expected (" (Attempt.expect Symbol.leftParen)
  let groups ← Attempt.commaSeparated unpivotGroup
  within "UNPIVOT IN: expected )" (Attempt.expect Symbol.rightParen)
  within "UNPIVOT: expected closing )" (Attempt.expect Symbol.rightParen)
  let aliasName ← within "UNPIVOT alias" trailingAlias
  return .unpivot (← spanFrom source.span.start) source valueColumns nameColumn groups aliasName

def sourceForm (source : TableRef) : SourceForm → Attempt TableRef
  | .pivot => grammar.pivot source
  | .unpivot => unpivot source

end Grammar

end QueryLint
