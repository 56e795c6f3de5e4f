import QueryLint.Parser.Expression
import QueryLint.Parser.Source

/-!
Queries: select blocks with their clauses, set operations and definitions.
-/

namespace QueryLint

inductive ClauseContent where
  | expression (expr : Expr)
  | grouping (exprs : List Expr)
  | ordering (items : List OrderItem)
  | windows (windows : List NamedWindow)

namespace SelectBlock

def empty : SelectBlock :=
  ⟨{}, false, "", [], none, none, [], none, [], none, [], {}, none, none, []⟩

/-- Puts what a clause has read into a slot; content of another kind than the slot holds is
dropped. -/
def assign (block : SelectBlock) : ClauseSlot → ClauseContent → SelectBlock
  | .where, .expression expr => { block with filter := some expr }
  | .groupBy, .grouping exprs => { block with groupBy := exprs }
  | .having, .expression expr => { block with having := some expr }
  | .window, .windows windows => { block with windows := windows }
  | .orderBy, .ordering items => { block with orderBy := items }
  | .limit, .expression expr => { block with limit := some expr }
  | .offset, .expression expr => { block with offset := some expr }
  | .qualify, .expression expr => { block with qualify := some expr }
  | .extensions, .expression expr => { block with extensions := block.extensions ++ [expr] }
  | _, _ => block

end SelectBlock

namespace Grammar

open QueryLint.Parser

variable (grammar : Grammar)

/-! ### Select items -/

def nextStarModifier : Parser (Option StarModifier) := do
  match (← dialect).starForm? (← current).kind with
  | none => return none
  | some form =>
    if ← checkNext Symbol.leftParen then
      advance
      (grammar.starModifier form).orNote
    else return none

def starModifiers : Parser (List StarModifier) := do
  repeated grammar.nextStarModifier ((← remaining) + 1)

/-- The table whose columns an expression stands for, empty if it is no qualified star. -/
def starredTable : Expr → String
  | .star _ table => table
  | _ => ""

def selectItem : Parser SelectItem := do
  let start ← position
  if ← accept Symbol.star then
    let modifiers ← grammar.starModifiers
    return .star (← spanFrom start) modifiers
  let expr ← grammar.expression
  if !(starredTable expr).isEmpty then
    let modifiers ← grammar.starModifiers
    return .tableStar (← spanFrom start) (starredTable expr) modifiers
  let (aliasName, aliasSpan) ← aliasName
  return .expr (← spanFrom start) expr aliasName aliasSpan

/-- Select items; a comma after the last one is allowed before `FROM`. -/
def selectItems : Parser (List SelectItem) := do
  let mark ← mark
  chain (do
    let item ← grammar.selectItem
    if ← failedSince mark then return (item, false)
    if ← accept Symbol.comma then return (item, !(← check Keyword.FROM))
    else return (item, false)) ((← remaining) + 1)

def rowShape : Parser String := do
  if ← check Keyword.AS then
    let next ← lookahead
    let word := Text.upper next.text
    if next.isWord && (word == "STRUCT" || word == "VALUE") then
      advance
      advance
      return word
    else return ""
  else return ""

/-! ### Clauses -/

def clauseContent : ClauseForm → Attempt ClauseContent
  | .expression => return .expression (← Attempt.complete grammar.expression)
  | .grouping => do
    Attempt.expect Keyword.BY
    return .grouping (← Attempt.complete grammar.expressions)
  | .ordering => do
    Attempt.expect Keyword.BY
    return .ordering (← Attempt.complete grammar.orderItems)
  | .windows => return .windows (← Attempt.commaSeparated grammar.namedWindow)

/-- A clause keyword that is left over is out of order, or foreign to the dialect. -/
def leftoverClause : Parser Unit := do
  let kind := (← current).kind
  let dialect ← dialect
  if (dialect.clause? kind).isSome then fault (.clauseOutOfOrder kind.text)
  else if Dialect.isKnownClause kind then fault (.unsupportedClause kind.text dialect.name)

/-- Reads the clause of a keyword and puts its content into the block; `none` after an error,
which is noted unless the content has noted one. -/
def clause (mark : Nat) (block : SelectBlock) (kind : TokenKind) : Parser (Option SelectBlock) := do
  match (← dialect).clause? kind with
  | some { form := some form, slot, .. } =>
    let keyword ← position
    advance
    match ← (grammar.clauseContent form).run with
    | .ok content =>
      let block := block.assign slot content
      return some (if slot = .orderBy then { block with orderByPosition := keyword } else block)
    | .error error =>
      when (!(← failedSince mark)) (addError error)
      return none
  | _ =>
    fault (.unreadableClause kind.text)
    return none

/-- Reads the clauses of a block in the order of the dialect, each at most once for each time that
it is listed. -/
def clausesFrom (mark : Nat) : List ClauseRule → SelectBlock → Parser SelectBlock
  | [], block => do
    leftoverClause
    return block
  | rule :: rules, block => do
    if ← check rule.kind then
      match ← grammar.clause mark block rule.kind with
      | some block => clausesFrom mark rules block
      | none => return block
    else clausesFrom mark rules block

def clauses (block : SelectBlock) : Parser SelectBlock := do
  grammar.clausesFrom (← mark) (← dialect).clauses block

def selectSource : Parser (Option FromClause) := do
  if ← accept Keyword.FROM then return some (← grammar.fromClause) else return none

def selectBlock : Parser SelectBlock := do
  let start ← position
  if !(← expect Keyword.SELECT) then return .empty
  let distinct ← accept Keyword.DISTINCT
  when (!distinct) (discard <| accept Keyword.ALL)
  let asKind ← rowShape
  let items ← grammar.selectItems
  let source ← grammar.selectSource
  let block ← grammar.clauses { SelectBlock.empty with distinct, asKind, items, source }
  return { block with span := ← spanFrom start }

/-! ### Set operations -/

def setOperator? : TokenKind → Option SetOperator
  | .keyword .UNION => some .union
  | .keyword .INTERSECT => some .intersect
  | .keyword .EXCEPT => some .except
  | _ => none

def queryOperand : Parser Operand := do
  if ← accept Symbol.leftParen then
    let query ← grammar.query
    discard <| expect Symbol.rightParen
    return .nested query
  else return .block (← grammar.selectBlock)

def readQueryBody : Parser QueryBody := do
  let start ← position
  let operand ← grammar.queryOperand
  match setOperator? (← current).kind with
  | none => return .single (← spanFrom start) operand
  | some operator =>
    advance
    let all ← accept Keyword.ALL
    when (!all) (discard <| accept Keyword.DISTINCT)
    let right ← grammar.queryBody
    return .combined (← spanFrom start) operand operator all right

/-! ### Definitions -/

/-- The written column list of a definition; `none` after an error. -/
def cteColumns : Parser (Option (List String)) := do
  if ← accept Symbol.leftParen then
    match ← (Attempt.commaSeparated Attempt.identifier).orNote with
    | some columns => if ← expect Symbol.rightParen then return some columns else return none
    | none => return none
  else return some []

/-- Skips the query of a definition from its opening parenthesis up to the closing one; the errors
since the mark count as recovered. Without a closing parenthesis they remain, and the second
component is false. -/
def skipQuery (opening mark : Nat) (query : Query) : Parser (Option Query × Bool) := do
  match (← input).closing? opening with
  | some closing =>
    update fun state => { state with
      errors := state.errors.take mark
      recovered := state.recovered ++ state.errors.drop mark }
    seek (closing + 1)
    return (none, true)
  | none => return (some query, false)

/-- The query of a definition from its opening parenthesis on. A query that cannot be read is
skipped. -/
def cteQuery : Parser (Option Query × Bool) := do
  let opening ← index
  if !(← expect Symbol.leftParen) then return (none, false)
  let mark ← mark
  let query ← grammar.query
  when (!(← failedSince mark)) (discard <| expect Symbol.rightParen)
  if ← failedSince mark then skipQuery opening mark query else return (some query, true)

def cte : Parser Cte := do
  let token ← current
  let name := token.text
  let nameSpan := token.span
  let broken (name : String) (columns : List String) (query : Option Query) : Cte :=
    ⟨{}, name, nameSpan, columns, query⟩
  if !token.isWord then
    unexpected "CTE name"
    return broken "" [] none
  advance
  match ← cteColumns with
  | none => return broken name [] none
  | some columns =>
    if !(← expect Keyword.AS) then return broken name columns none
    let (query, complete) ← grammar.cteQuery
    if complete then return ⟨← spanFrom token.span.start, name, nameSpan, columns, query⟩
    else return broken name columns query

def withClause : Parser WithClause := do
  let start ← position
  discard <| expect Keyword.WITH
  let recursive ← accept Keyword.RECURSIVE
  let ctes ← commaSeparated grammar.cte
  return ⟨← spanFrom start, recursive, ctes⟩

def queryDefinitions : Parser (Option WithClause) := do
  if ← check Keyword.WITH then return some (← grammar.withClause) else return none

def readQuery : Parser Query := do
  let start ← position
  let definitions ← grammar.queryDefinitions
  let body ← grammar.readQueryBody
  return ⟨← spanFrom start, definitions, body⟩

end Grammar

end QueryLint
