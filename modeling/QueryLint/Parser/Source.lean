import QueryLint.Parser.Call
import QueryLint.Parser.Form

/-!
Sources of rows: tables, derived tables, table functions and joins.
-/

namespace QueryLint

namespace Grammar

open QueryLint.Parser

variable (grammar : Grammar)

/-- A project name may contain dashes without quotes: a dash that touches the segment before it
and the word or number after it belongs to the segment. -/
def dashed : Nat → PathSegment → Parser PathSegment
  | 0, _ => Parser.exhausted
  | bound + 1, segment => do
    let dash ← current
    let next ← lookahead
    if dash.kind == Symbol.minus && dash.span.start.offset == segment.span.stop.offset &&
        next.span.start.offset == dash.span.stop.offset &&
        (next.kind == .identifier || next.kind == .number) then
      advance
      advance
      dashed bound { segment with
        name := segment.name ++ "-" ++ next.text
        span := { segment.span with stop := next.span.stop } }
    else return segment

def tablePath : Parser (List PathSegment) := do
  match ← path with
  | [] => return []
  | first :: others =>
    let first ← dashed ((← remaining) + 1) first
    if ← accept Symbol.dot then return first :: (← path)
    else return first :: others

def systemTime : Parser Unit := do
  let token ← current
  if token.spells "FOR" && (← lookahead).spells "SYSTEM_TIME" then
    advance
    advance
    discard <| expect Keyword.AS
    if (← current).spells "OF" then
      advance
      discard grammar.expression
    else unexpected "OF"

def tableFunction (start : Position) (path : List PathSegment) : Parser TableRef := do
  let call ← grammar.call start path
  let (aliasName, _) ← aliasName
  let followed ← check Keyword.WITH
  if followed && (← checkNext Keyword.OFFSET) then
    advance
    advance
    let (offsetAlias, _) ← Parser.aliasName
    return .function (← spanFrom start) call aliasName true offsetAlias
  else return .function (← spanFrom start) call aliasName false ""

def plainSource : Parser TableRef := do
  let start ← position
  if ← accept Symbol.leftParen then
    let query ← grammar.query
    discard <| expect Symbol.rightParen
    let (aliasName, _) ← aliasName
    return .derived (← spanFrom start) query aliasName
  if !(← current).isWord then
    unexpected "table name"
    return .missing
  let path ← tablePath
  if ← check Symbol.leftParen then return ← grammar.tableFunction start path
  grammar.systemTime
  let (aliasName, aliasSpan) ← aliasName
  return .table { PathSegment.tableName path with span := ← spanFrom start, aliasName, aliasSpan }

/-- Applies the special forms that follow a source. -/
def sourceForms : Nat → TableRef → Parser TableRef
  | 0, _ => Parser.exhausted
  | bound + 1, source => do
    match (← dialect).sourceForm? (← current).kind with
    | none => return source
    | some form =>
      advance
      match ← (grammar.sourceForm source form).orNote with
      | some applied => sourceForms bound applied
      | none => return source

def tableRef : Parser TableRef := do
  match ← grammar.plainSource with
  | .missing => return .missing
  | source => grammar.sourceForms ((← remaining) + 1) source

def joinColumns : Parser (List ColumnRef) := do
  if !(← expect Symbol.leftParen) then return []
  match ← (Attempt.commaSeparated Attempt.columnRef).orNote with
  | some columns =>
    discard <| expect Symbol.rightParen
    return columns
  | none => return []

def usingColumns (allowed : Bool) : Parser (List ColumnRef) := do
  if allowed then
    if ← accept Keyword.USING then joinColumns else return []
  else return []

/-- The kind of a join and whether it may name common columns, once `JOIN` has been read. A kind
without `JOIN` after it is an error and has no second part. -/
def joinKind (natural : Bool) : Parser (Option (JoinKind × Option Bool)) := do
  if ← accept Keyword.JOIN then return some (.inner, some true)
  match (← dialect).join? (← current).kind with
  | some rule =>
    advance
    discard <| rule.optional.elim (pure false) accept
    if ← expect Keyword.JOIN then return some (rule.join, some rule.allowsUsing)
    else return some (rule.join, none)
  | none =>
    if natural then
      unexpected Keyword.JOIN.text
      return some (.inner, none)
    else return none

def joinTo (start : Position) (kind : JoinKind) (natural allowsUsing : Bool) : Parser Join := do
  let right ← grammar.tableRef
  if ← accept Keyword.ON then
    let condition ← grammar.expression
    return ⟨← spanFrom start, kind, natural, right, some condition, []⟩
  let columns ← usingColumns allowsUsing
  return ⟨← spanFrom start, kind, natural, right, none, columns⟩

def join : Parser (Option Join) := do
  let start ← position
  if ← accept Symbol.comma then
    let right ← grammar.tableRef
    return some ⟨← spanFrom start, .comma, false, right, none, []⟩
  let natural ← accept Keyword.NATURAL
  match ← joinKind natural with
  | none => return none
  | some (kind, none) => return some ⟨{}, kind, natural, .missing, none, []⟩
  | some (kind, some allowsUsing) => return some (← grammar.joinTo start kind natural allowsUsing)

def fromClause : Parser FromClause := do
  let start ← position
  let mark ← mark
  let source ← grammar.tableRef
  let joins ← repeated (do
    if ← failedSince mark then return none
    grammar.join) ((← remaining) + 1)
  return ⟨← spanFrom start, source, joins⟩

end Grammar

end QueryLint
