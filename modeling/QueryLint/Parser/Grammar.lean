import QueryLint.Parser.Attempt

/-!
The productions that other productions come back to. Every other production takes them as an
argument; the parser as a whole is obtained by tying this knot as often as the input allows.
-/

namespace QueryLint

structure Grammar where
  /-- An expression of operators that bind tighter than the given strength. -/
  expressionAbove : Precedence → Parser Expr
  query : Parser Query
  queryBody : Parser QueryBody

namespace Grammar

def exhausted : Grammar := ⟨fun _ => Parser.exhausted, Parser.exhausted, Parser.exhausted⟩

variable (grammar : Grammar)

def expression : Parser Expr := grammar.expressionAbove Precedence.none

def expressions : Parser (List Expr) := Parser.commaSeparated grammar.expression

def expressionAfter (keyword : Keyword) : Parser (Option Expr) := do
  if ← Parser.accept keyword then return some (← grammar.expression) else return none

def orderItem : Parser OrderItem := do
  let expr ← grammar.expression
  let descending ← Parser.accept Keyword.DESC
  Parser.when (!descending) (discard <| Parser.accept Keyword.ASC)
  if ← Parser.accept Keyword.NULLS then
    if ← Parser.accept Keyword.FIRST then return ⟨expr, descending, some true⟩
    else if ← Parser.accept Keyword.LAST then return ⟨expr, descending, some false⟩
    else
      Parser.unexpected "FIRST or LAST"
      return ⟨expr, descending, none⟩
  else return ⟨expr, descending, none⟩

def orderItems : Parser (List OrderItem) := Parser.commaSeparated grammar.orderItem

end Grammar

end QueryLint
