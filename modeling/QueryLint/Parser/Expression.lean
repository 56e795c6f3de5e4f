import QueryLint.Parser.Call
import QueryLint.Parser.Form

/-!
Expressions. An operand is read first; then operators that bind tighter than the context are
applied to it, one after the other, so that operators of equal strength group to the left.
-/

namespace QueryLint

namespace Grammar

open QueryLint.Parser

variable (grammar : Grammar)

/-! ### Operands -/

def literalOf (token : Token) (kind : LiteralKind) : Expr :=
  .literal { span := token.span, kind, value := token.text }

def literalTypes : List String :=
  ["DATE", "DATETIME", "TIME", "TIMESTAMP", "NUMERIC", "BIGNUMERIC", "JSON"]

def literalType? (path : List PathSegment) : Option String :=
  match path with
  | [segment] =>
    let name := Text.upper segment.name
    if !segment.quoted && literalTypes.contains name then some name else none
  | _ => none

/-- Whether a path is the word for a conversion that yields null instead of failing. -/
def isSafeCast (path : List PathSegment) : Bool :=
  match path with
  | [segment] => Text.sameIgnoringCase segment.name "SAFE_CAST"
  | _ => false

/-- What begins with a name: a typed literal, a call, a star with a path, or a column. -/
def nameExpression : Parser Expr := do
  let start ← position
  let path ← path
  let token ← current
  if let some typeName := if token.kind == .string then literalType? path else none then
    advance
    return .literal { span := ← spanFrom start, kind := .string, value := token.text, typeName }
  if ← check Symbol.leftParen then
    if isSafeCast path then return ← grammar.cast start true
    return ← grammar.call start path
  let dotted ← check Symbol.dot
  if dotted && (← checkNext Symbol.star) then
    advance
    advance
    return .star (← spanFrom start) (PathSegment.join path)
  return .column (PathSegment.columnRef path (← spanFrom start))

def signed (operator : Token) (precedence : Precedence) : Parser Expr := do
  advance
  let operand ← grammar.expressionAbove precedence
  if operand.isMissing then return .missing
  return .unary (← spanFrom operator.span.start) operator.kind operand

def tupleField : Parser (Option NamedExpr) := do
  if ← accept Symbol.comma then return some ⟨← grammar.expression, ""⟩
  else return none

/-- A query, a tuple or a single expression in parentheses. -/
def parenthesized : Parser Expr := do
  let start ← position
  let isQuery := (← input).startsQuery ((← index) + 1)
  advance
  if isQuery then
    let query ← grammar.query
    discard <| expect Symbol.rightParen
    return .subquery (← spanFrom start) query false
  let first ← grammar.expression
  if first.isMissing then return .missing
  if ← check Symbol.comma then
    let others ← repeated grammar.tupleField ((← remaining) + 1)
    discard <| expect Symbol.rightParen
    return .struct (← spanFrom start) "" (⟨first, ""⟩ :: others)
  discard <| expect Symbol.rightParen
  return .paren (← spanFrom start) first

/-- Whether a token may begin a name in an expression; the reserved words `LEFT` and `RIGHT` may
if they are called. -/
def startsName (token next : Token) : Bool :=
  token.kind == .identifier || token.kind.isSoft || token.kind.isWord ||
    ((token.kind == Keyword.LEFT || token.kind == Keyword.RIGHT) &&
      next.kind == Symbol.leftParen)

def plainOperand (token : Token) : Parser Expr := do
  match token.kind with
  | .number =>
    advance
    return literalOf token .number
  | .string =>
    advance
    return literalOf token .string
  | .keyword .TRUE | .keyword .FALSE =>
    advance
    return literalOf token .bool
  | .keyword .NULL =>
    advance
    return literalOf token .null
  | .symbol .minus | .symbol .plus | .symbol .tilde => grammar.signed token Precedence.sign
  | .keyword .NOT => grammar.signed token Precedence.not
  | .symbol .leftParen => grammar.parenthesized
  | .keyword .CASE => grammar.caseDistinction
  | .keyword .CAST =>
    advance
    grammar.cast token.span.start false
  | .keyword .EXTRACT => grammar.extract
  | .keyword .INTERVAL => grammar.interval
  | .keyword .EXISTS => grammar.existsQuery
  | .symbol .star =>
    advance
    return .star (← spanFrom token.span.start) ""
  | _ =>
    if startsName token (← lookahead) then grammar.nameExpression
    else
      fault (.unexpectedInput token)
      return .missing

def operand : Parser Expr := do
  let token ← current
  match (← dialect).openingForm? token.kind with
  | some form => return (← (grammar.opening form).orNote).getD .missing
  | none => grammar.plainOperand token

/-! ### Operators after an operand -/

def membership (operand : Expr) (negated : Bool) : Parser Expr := do
  let start := operand.span.start
  let unnest ← checkWord "UNNEST"
  if unnest && (← checkNext Symbol.leftParen) then
    advance
    advance
    let array ← grammar.expression
    discard <| expect Symbol.rightParen
    return .inUnnest (← spanFrom start) operand negated array
  if !(← expect Symbol.leftParen) then return .inValues {} operand negated []
  if (← input).startsQuery (← index) then
    let query ← grammar.query
    discard <| expect Symbol.rightParen
    return .inQuery (← spanFrom start) operand negated query
  else
    let values ← grammar.expressions
    discard <| expect Symbol.rightParen
    return .inValues (← spanFrom start) operand negated values

def isTest (operand : Expr) : Parser Expr := do
  let start := operand.span.start
  let negated ← accept Keyword.NOT
  let token ← current
  match token.kind with
  | .keyword .NULL =>
    advance
    return .isNull (← spanFrom start) operand negated
  | .keyword .TRUE | .keyword .FALSE =>
    advance
    return .isBool (← spanFrom start) operand negated (token.kind == Keyword.TRUE)
  | .keyword .DISTINCT =>
    advance
    discard <| expect Keyword.FROM
    let right ← grammar.expressionAbove Precedence.comparison
    let operator : Symbol := if negated then .equal else .notEqual
    return .binary (← spanFrom start) operand operator right
  | _ =>
    unexpected "NULL, TRUE, FALSE or DISTINCT"
    return operand

/-- A field of a value that is no path, or all its fields. -/
def fieldAccess (operand : Expr) : Parser Expr := do
  let start := operand.span.start
  advance
  if ← accept Symbol.star then return .star (← spanFrom start) ""
  match ← Attempt.identifier.orNote with
  | some name => return .field (← spanFrom start) operand name
  | none => return operand

def applyOperator (operand : Expr) (precedence : Precedence) (negated : Bool) : Parser Expr := do
  let start := operand.span.start
  let operator ← current
  match operator.kind with
  | .keyword .IN =>
    advance
    grammar.membership operand negated
  | .keyword .LIKE =>
    advance
    let pattern ← grammar.expressionAbove Precedence.comparison
    return .like (← spanFrom start) operand negated pattern
  | .keyword .BETWEEN =>
    advance
    let low ← grammar.expressionAbove Precedence.comparison
    discard <| expect Keyword.AND
    let high ← grammar.expressionAbove Precedence.comparison
    return .between (← spanFrom start) operand negated low high
  | .keyword .IS =>
    advance
    grammar.isTest operand
  | kind =>
    match (← dialect).continuingForm? kind with
    | some form =>
      advance
      return (← (grammar.continuing operand form).orNote).getD operand
    | none =>
      advance
      let right ← grammar.expressionAbove precedence
      if right.isMissing then return operand
      return .binary (← spanFrom start) operand kind right

def nextOperator (above : Precedence) (operand : Expr) : Parser (Option Expr) := do
  let token ← current
  match token.kind with
  | .keyword .NOT =>
    let next ← lookahead
    let isNegated := next.kind == Keyword.IN || next.kind == Keyword.LIKE ||
      next.kind == Keyword.BETWEEN
    if isNegated && above < Precedence.comparison then
      advance
      return some (← grammar.applyOperator operand Precedence.comparison true)
    else return none
  | .symbol .dot =>
    if above < Precedence.postfixed then return some (← fieldAccess operand)
    else return none
  | kind =>
    let precedence := (← dialect).precedence kind
    if precedence = Precedence.none || precedence ≤ above then return none
    else return some (← grammar.applyOperator operand precedence false)

def operators (above : Precedence) (mark : Nat) : Nat → Expr → Parser Expr
  | 0, _ => Parser.exhausted
  | bound + 1, operand => do
    if ← failedSince mark then return operand
    match ← grammar.nextOperator above operand with
    | some applied => operators above mark bound applied
    | none => return operand

def readExpression (above : Precedence) : Parser Expr := do
  let mark ← mark
  let operand ← grammar.operand
  if operand.isMissing then return operand
  grammar.operators above mark ((← remaining) + 1) operand

end Grammar

end QueryLint
