/-!
The kinds of tokens. Symbols and reserved words are fixed; a dialect may reserve further words,
and such a word is its own kind, spelled in upper case.
-/

namespace QueryLint

inductive Symbol where
  | plus | minus | star | slash | percent | concat | equal | notEqual | less | greater
  | lessEqual | greaterEqual | ampersand | pipe | caret | tilde | shiftLeft | shiftRight | arrow
  | dot | comma | semicolon | leftParen | rightParen | leftBracket | rightBracket
deriving DecidableEq, Repr, Inhabited

inductive Keyword where
  | ALL | AND | ANY | AS | ASC | BETWEEN | BY | CASE | CAST | CROSS | CURRENT | DESC | DISTINCT
  | ELSE | END | EXCEPT | EXISTS | EXTRACT | FALSE | FILTER | FIRST | FOLLOWING | FROM | FULL
  | GROUP | GROUPS | HAVING | IN | INNER | INTERSECT | INTERVAL | IS | JOIN | LAST | LATERAL
  | LEFT | LIKE | LIMIT | NATURAL | NOT | NULL | NULLS | OFFSET | ON | OR | ORDER | OUTER | OVER
  | PARTITION | PRECEDING | RANGE | RECURSIVE | RIGHT | ROW | ROWS | SELECT | THEN | TRUE
  | UNBOUNDED | UNION | USING | WHEN | WHERE | WINDOW | WITH | WITHIN
deriving DecidableEq, Repr, Inhabited

namespace Symbol

def all : List Symbol := [
  .plus, .minus, .star, .slash, .percent, .concat, .equal, .notEqual, .less, .greater,
  .lessEqual, .greaterEqual, .ampersand, .pipe, .caret, .tilde, .shiftLeft, .shiftRight, .arrow,
  .dot, .comma, .semicolon, .leftParen, .rightParen, .leftBracket, .rightBracket]

def text : Symbol → String
  | .plus => "+"
  | .minus => "-"
  | .star => "*"
  | .slash => "/"
  | .percent => "%"
  | .concat => "||"
  | .equal => "="
  | .notEqual => "!="
  | .less => "<"
  | .greater => ">"
  | .lessEqual => "<="
  | .greaterEqual => ">="
  | .ampersand => "&"
  | .pipe => "|"
  | .caret => "^"
  | .tilde => "~"
  | .shiftLeft => "<<"
  | .shiftRight => ">>"
  | .arrow => "=>"
  | .dot => "."
  | .comma => ","
  | .semicolon => ";"
  | .leftParen => "("
  | .rightParen => ")"
  | .leftBracket => "["
  | .rightBracket => "]"

end Symbol

namespace Keyword

def all : List Keyword := [
  .ALL, .AND, .ANY, .AS, .ASC, .BETWEEN, .BY, .CASE, .CAST, .CROSS, .CURRENT, .DESC, .DISTINCT,
  .ELSE, .END, .EXCEPT, .EXISTS, .EXTRACT, .FALSE, .FILTER, .FIRST, .FOLLOWING, .FROM, .FULL,
  .GROUP, .GROUPS, .HAVING, .IN, .INNER, .INTERSECT, .INTERVAL, .IS, .JOIN, .LAST, .LATERAL,
  .LEFT, .LIKE, .LIMIT, .NATURAL, .NOT, .NULL, .NULLS, .OFFSET, .ON, .OR, .ORDER, .OUTER, .OVER,
  .PARTITION, .PRECEDING, .RANGE, .RECURSIVE, .RIGHT, .ROW, .ROWS, .SELECT, .THEN, .TRUE,
  .UNBOUNDED, .UNION, .USING, .WHEN, .WHERE, .WINDOW, .WITH, .WITHIN]

def text : Keyword → String
  | .ALL => "ALL"
  | .AND => "AND"
  | .ANY => "ANY"
  | .AS => "AS"
  | .ASC => "ASC"
  | .BETWEEN => "BETWEEN"
  | .BY => "BY"
  | .CASE => "CASE"
  | .CAST => "CAST"
  | .CROSS => "CROSS"
  | .CURRENT => "CURRENT"
  | .DESC => "DESC"
  | .DISTINCT => "DISTINCT"
  | .ELSE => "ELSE"
  | .END => "END"
  | .EXCEPT => "EXCEPT"
  | .EXISTS => "EXISTS"
  | .EXTRACT => "EXTRACT"
  | .FALSE => "FALSE"
  | .FILTER => "FILTER"
  | .FIRST => "FIRST"
  | .FOLLOWING => "FOLLOWING"
  | .FROM => "FROM"
  | .FULL => "FULL"
  | .GROUP => "GROUP"
  | .GROUPS => "GROUPS"
  | .HAVING => "HAVING"
  | .IN => "IN"
  | .INNER => "INNER"
  | .INTERSECT => "INTERSECT"
  | .INTERVAL => "INTERVAL"
  | .IS => "IS"
  | .JOIN => "JOIN"
  | .LAST => "LAST"
  | .LATERAL => "LATERAL"
  | .LEFT => "LEFT"
  | .LIKE => "LIKE"
  | .LIMIT => "LIMIT"
  | .NATURAL => "NATURAL"
  | .NOT => "NOT"
  | .NULL => "NULL"
  | .NULLS => "NULLS"
  | .OFFSET => "OFFSET"
  | .ON => "ON"
  | .OR => "OR"
  | .ORDER => "ORDER"
  | .OUTER => "OUTER"
  | .OVER => "OVER"
  | .PARTITION => "PARTITION"
  | .PRECEDING => "PRECEDING"
  | .RANGE => "RANGE"
  | .RECURSIVE => "RECURSIVE"
  | .RIGHT => "RIGHT"
  | .ROW => "ROW"
  | .ROWS => "ROWS"
  | .SELECT => "SELECT"
  | .THEN => "THEN"
  | .TRUE => "TRUE"
  | .UNBOUNDED => "UNBOUNDED"
  | .UNION => "UNION"
  | .USING => "USING"
  | .WHEN => "WHEN"
  | .WHERE => "WHERE"
  | .WINDOW => "WINDOW"
  | .WITH => "WITH"
  | .WITHIN => "WITHIN"

def ofText? (text : String) : Option Keyword := all.find? (·.text == text)

/-- Reserved words that may also name columns. -/
def isSoft : Keyword → Bool
  | .FIRST | .LAST | .OFFSET | .ROW | .FILTER => true
  | _ => false

end Keyword

inductive TokenKind where
  | endOfInput
  | illegal
  | identifier
  | number
  | string
  | symbol (s : Symbol)
  | keyword (k : Keyword)
  /-- A word that only some dialects reserve. -/
  | word (spelling : String)
deriving DecidableEq, Repr, Inhabited

namespace TokenKind

instance : Coe Symbol TokenKind := ⟨.symbol⟩
instance : Coe Keyword TokenKind := ⟨.keyword⟩

def text : TokenKind → String
  | .endOfInput => "EOF"
  | .illegal => "ILLEGAL"
  | .identifier => "IDENT"
  | .number => "NUMBER"
  | .string => "STRING"
  | .symbol s => s.text
  | .keyword k => k.text
  | .word spelling => spelling

def builtin : List TokenKind :=
  [.endOfInput, .illegal, .identifier, .number, .string] ++ Symbol.all.map .symbol ++
    Keyword.all.map .keyword

/-- Codes of dialect words count from here. -/
def firstWordCode : Nat := 1000

/-- The kind with a given code, where `words` are the dialect words in the order in which they
were reserved. -/
def ofCode? (words : List String) (code : Int) : Option TokenKind :=
  if code < 0 then none
  else if code < firstWordCode then builtin[code.toNat]?
  else words[code.toNat - firstWordCode]?.map .word

/-- The name of a code; a code without a kind is shown by its number. -/
def textOfCode (words : List String) (code : Int) : String :=
  match ofCode? words code with
  | some kind => kind.text
  | none => "TOKEN(" ++ toString code ++ ")"

def isWord : TokenKind → Bool
  | .word _ => true
  | _ => false

/-- Reserved words, those of dialects included. -/
def isKeyword : TokenKind → Bool
  | .keyword _ | .word _ => true
  | _ => false

def isSymbol : TokenKind → Bool
  | .symbol _ => true
  | _ => false

def isSoft : TokenKind → Bool
  | .keyword k => k.isSoft
  | _ => false

def isSetOperation : TokenKind → Bool
  | .keyword .UNION | .keyword .INTERSECT | .keyword .EXCEPT => true
  | _ => false

end TokenKind

end QueryLint
