import QueryLint.Parser.Window

/-!
Function calls and the constructs that look like them.
-/

namespace QueryLint

namespace Grammar

open QueryLint.Parser

variable (grammar : Grammar)

/-! ### Function calls -/

/-- One argument and whether another one follows; the name before `=>` is dropped. An argument
that fails is dropped too. -/
def callArgument : Parser (Option Expr × Bool) := do
  let token ← current
  when (token.isWord && (← checkNext Symbol.arrow)) do
    advance
    advance
  let mark ← mark
  let argument ← grammar.expression
  if ← failedSince mark then return (none, false)
  return (some argument, ← accept Symbol.comma)

def callArguments : Parser (List Expr) := do
  let arguments ← chain grammar.callArgument ((← remaining) + 1)
  return arguments.filterMap id

/-- The arguments of a call and whether only distinct values count; a star stands alone. -/
def callOperands (star : Bool) : Parser (Bool × List Expr) := do
  if star || (← check Symbol.rightParen) then return (false, [])
  else
    let distinct ← accept Keyword.DISTINCT
    return (distinct, ← grammar.callArguments)

def nullHandling : Parser String := do
  let token ← current
  if token.kind == .identifier && (← checkNext Keyword.NULLS) then
    let mode := Text.upper token.text
    if mode == "IGNORE" || mode == "RESPECT" then
      advance
      advance
      return mode ++ " NULLS"
    else return ""
  else return ""

def callRestriction (arguments : List Expr) : Parser (List Expr) := do
  if ← accept Keyword.HAVING then
    -- the word after it is `MAX` or `MIN`
    advance
    let bound ← grammar.expression
    return if bound.isMissing then arguments else arguments ++ [bound]
  else return arguments

/-- What `OVER` applies a call to. The second component is false when no window could be read. -/
def callWindow : Parser (Option WindowSpec × Bool) := do
  if ← accept Keyword.OVER then
    if ← check Symbol.leftParen then return (some (← grammar.windowSpec), true)
    else
      let token ← current
      if token.isWord then
        advance
        return (some (windowNamed token.text (← spanFrom token.span.start)), true)
      else
        unexpected "window name"
        return (none, false)
  else return (none, true)

def call (start : Position) (path : List PathSegment) : Parser Expr := do
  let (safe, path) := PathSegment.splitSafe path
  let name := Text.upper (PathSegment.join path)
  discard <| expect Symbol.leftParen
  let star ← accept Symbol.star
  let (distinct, arguments) ← grammar.callOperands star
  let nullHandling ← nullHandling
  let arguments ← grammar.callRestriction arguments
  let orderBy ← grammar.ordering
  let limit ← grammar.expressionAfter Keyword.LIMIT
  discard <| expect Symbol.rightParen
  let (window, complete) ← grammar.callWindow
  let span ← (if complete then spanFrom start else pure {})
  return .call { span, name, safe, distinct, star, nullHandling } arguments orderBy limit window

/-! ### Case distinctions -/

def caseBranch : Parser (Option CaseBranch) := do
  if ← accept Keyword.WHEN then
    let condition ← grammar.expression
    discard <| expect Keyword.THEN
    return some ⟨condition, ← grammar.expression⟩
  else return none

def caseOperand : Parser (Option Expr) := do
  if ← check Keyword.WHEN then return none else return some (← grammar.expression)

def caseDistinction : Parser Expr := do
  let start ← position
  discard <| expect Keyword.CASE
  let operand ← grammar.caseOperand
  let branches ← repeated grammar.caseBranch ((← remaining) + 1)
  if branches.isEmpty then
    unexpected Keyword.WHEN.text
    return .missing
  let otherwise ← grammar.expressionAfter Keyword.ELSE
  discard <| expect Keyword.END
  return .case (← spanFrom start) operand branches otherwise

/-! ### Conversions and time -/

/-- Reads the words in order and notes an error at the first that is not there. -/
def fixedWords : List String → Parser Bool
  | [] => return true
  | word :: words => do
    if ← checkWord word then
      advance
      fixedWords words
    else
      unexpected word
      return false

def timeZone : Parser Unit := do
  if ← checkWord "AT" then
    advance
    if ← fixedWords ["TIME", "ZONE"] then discard grammar.expression

def castFormat : Parser Unit := do
  if ← checkWord "FORMAT" then
    advance
    discard grammar.expression
    grammar.timeZone

def cast (start : Position) (safe : Bool) : Parser Expr := do
  discard <| expect Symbol.leftParen
  let operand ← grammar.expression
  discard <| expect Keyword.AS
  let typeName ← typeName
  grammar.castFormat
  discard <| expect Symbol.rightParen
  return .cast (← spanFrom start) operand typeName safe

/-- The part of a date that `EXTRACT` takes, such as `DAY` or `WEEK(MONDAY)`. -/
def datePart (word : Token) : Parser String := do
  let part := Text.upper word.text
  if ← accept Symbol.leftParen then
    let token ← current
    let argument ← (if token.isWord then do
        advance
        pure ("(" ++ Text.upper token.text ++ ")")
      else pure "")
    discard <| expect Symbol.rightParen
    return part ++ argument
  else return part

def extract : Parser Expr := do
  let start ← position
  discard <| expect Keyword.EXTRACT
  discard <| expect Symbol.leftParen
  let token ← current
  if !token.isWord then
    unexpected "date part"
    return .missing
  advance
  let part ← datePart token
  discard <| expect Keyword.FROM
  let operand ← grammar.expression
  grammar.timeZone
  discard <| expect Symbol.rightParen
  return .extract (← spanFrom start) part operand

def lastUnit : Parser String := do
  if ← checkWord "TO" then
    advance
    let unit ← current
    if unit.isWord then
      advance
      return Text.upper unit.text
    else return ""
  else return ""

def interval : Parser Expr := do
  let start ← position
  discard <| expect Keyword.INTERVAL
  let value ← grammar.expressionAbove Precedence.sign
  if value.isMissing then return .missing
  let token ← current
  if !token.isWord then
    unexpected "interval unit"
    return .missing
  advance
  let toUnit ← lastUnit
  return .interval (← spanFrom start) value (Text.upper token.text) toUnit

/-! ### Queries in expressions -/

def existsQuery : Parser Expr := do
  let start ← position
  discard <| expect Keyword.EXISTS
  discard <| expect Symbol.leftParen
  let query ← grammar.query
  discard <| expect Symbol.rightParen
  return .exists (← spanFrom start) query

end Grammar

end QueryLint
