import QueryLint.Parser.Name

/-!
Windows: what follows `OVER`, and the definitions of a window clause.
-/

namespace QueryLint

namespace Grammar

open QueryLint.Parser

variable (grammar : Grammar)

/-- One bound of a frame with its offset. An offset is read up to the `AND` between two bounds. -/
def frameBound : Parser (FrameBound × Option Expr) := do
  if ← accept Keyword.UNBOUNDED then
    if ← accept Keyword.PRECEDING then return (.unboundedPreceding, none)
    else
      discard <| expect Keyword.FOLLOWING
      return (.unboundedFollowing, none)
  else if ← accept Keyword.CURRENT then
    discard <| expect Keyword.ROW
    return (.currentRow, none)
  else
    let offset ← grammar.expressionAbove Precedence.and
    if ← accept Keyword.PRECEDING then return (.offsetPreceding, some offset)
    else
      discard <| expect Keyword.FOLLOWING
      return (.offsetFollowing, some offset)

def frameUnit : Parser (Option FrameUnit) := do
  if ← accept Keyword.ROWS then return some .rows
  else if ← accept Keyword.RANGE then return some .range
  else if ← accept Keyword.GROUPS then return some .groups
  else return none

def frame : Parser (Option Frame × Option Expr × Option Expr) := do
  match ← frameUnit with
  | none => return (none, none, none)
  | some unit =>
    if ← accept Keyword.BETWEEN then
      let (first, firstOffset) ← grammar.frameBound
      discard <| expect Keyword.AND
      let (last, lastOffset) ← grammar.frameBound
      return (some ⟨unit, first, some last⟩, firstOffset, lastOffset)
    else
      let (first, firstOffset) ← grammar.frameBound
      return (some ⟨unit, first, none⟩, firstOffset, none)

/-- The name of the window that another one begins with, if written. -/
def windowBase : Parser String := do
  let token ← current
  if token.kind == .identifier then
    advance
    return token.text
  else return ""

def partitioning : Parser (List Expr) := do
  if ← accept Keyword.PARTITION then
    discard <| expect Keyword.BY
    grammar.expressions
  else return []

def ordering : Parser (List OrderItem) := do
  if ← accept Keyword.ORDER then
    discard <| expect Keyword.BY
    grammar.orderItems
  else return []

/-- A window in parentheses, which may begin with the name of another one. -/
def windowSpec : Parser WindowSpec := do
  let start ← position
  if !(← expect Symbol.leftParen) then return ⟨{}, "", [], [], none, none, none⟩
  let name ← windowBase
  let partitionBy ← grammar.partitioning
  let orderBy ← grammar.ordering
  let (frame, firstOffset, lastOffset) ← grammar.frame
  discard <| expect Symbol.rightParen
  return ⟨← spanFrom start, name, partitionBy, orderBy, frame, firstOffset, lastOffset⟩

def windowNamed (name : String) (span : Span) : WindowSpec := ⟨span, name, [], [], none, none, none⟩

def namedWindow : Attempt NamedWindow := do
  let name ← Attempt.identifier
  Attempt.expect Keyword.AS
  if ← check Symbol.leftParen then
    return ⟨name, ← Attempt.complete grammar.windowSpec⟩
  else
    let start ← position
    let base ← Attempt.identifier
    return ⟨name, windowNamed base (← spanFrom start)⟩

end Grammar

end QueryLint
