import QueryLint.Dialect.Basic

/-!
What most dialects share: the clauses of a select block, the operators and the joins.
-/

namespace QueryLint.Dialect.Standard

def whereClause : ClauseRule := ⟨Keyword.WHERE, some .expression, .where, [], false⟩

def groupByClause : ClauseRule :=
  ⟨Keyword.GROUP, some .grouping, .groupBy, ["GROUP", "BY"], false⟩

def havingClause : ClauseRule := ⟨Keyword.HAVING, some .expression, .having, [], false⟩

def windowClause : ClauseRule := ⟨Keyword.WINDOW, some .windows, .window, [], false⟩

def orderByClause : ClauseRule :=
  ⟨Keyword.ORDER, some .ordering, .orderBy, ["ORDER", "BY"], false⟩

def limitClause : ClauseRule := ⟨Keyword.LIMIT, some .expression, .limit, [], true⟩

def offsetClause : ClauseRule := ⟨Keyword.OFFSET, some .expression, .offset, [], true⟩

def clauses : List ClauseRule :=
  [whereClause, groupByClause, havingClause, windowClause, orderByClause, limitClause,
    offsetClause]

/-- A clause that filters after window functions; each dialect reserves its own word for it. -/
def qualifyClause (kind : TokenKind) : ClauseRule := ⟨kind, some .expression, .qualify, [], false⟩

def operators : List (TokenKind × Precedence) := [
  (Keyword.OR, .or), (Keyword.AND, .and),
  (Symbol.equal, .comparison), (Symbol.notEqual, .comparison), (Symbol.less, .comparison),
  (Symbol.greater, .comparison), (Symbol.lessEqual, .comparison),
  (Symbol.greaterEqual, .comparison), (Keyword.LIKE, .comparison), (Keyword.IN, .comparison),
  (Keyword.BETWEEN, .comparison), (Keyword.IS, .comparison),
  (Symbol.plus, .addition), (Symbol.minus, .addition),
  (Symbol.star, .multiplication), (Symbol.slash, .multiplication),
  (Symbol.percent, .multiplication), (Symbol.concat, .multiplication)]

def bitwiseOperators : List (TokenKind × Precedence) := [
  (Symbol.pipe, .bitOr), (Symbol.caret, .bitXor), (Symbol.ampersand, .bitAnd),
  (Symbol.shiftLeft, .shift), (Symbol.shiftRight, .shift)]

def joins : List JoinRule := [
  { kind := Keyword.INNER, join := .inner },
  { kind := Keyword.LEFT, join := .left, optional := some Keyword.OUTER },
  { kind := Keyword.RIGHT, join := .right, optional := some Keyword.OUTER },
  { kind := Keyword.FULL, join := .full, optional := some Keyword.OUTER },
  { kind := Keyword.CROSS, join := .cross, requiresOn := false, allowsUsing := false }]

end QueryLint.Dialect.Standard
