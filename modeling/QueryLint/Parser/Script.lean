import QueryLint.Parser.Select

/-!
Parsing a source: one statement, or a script of statements separated by semicolons.
-/

namespace QueryLint

open Text (Bytes)

namespace Grammar

/-- One more level of nesting above a grammar. -/
def next (grammar : Grammar) : Grammar where
  expressionAbove := grammar.readExpression
  query := grammar.readQuery
  queryBody := grammar.readQueryBody

def level : Nat → Grammar
  | 0 => exhausted
  | n + 1 => (level n).next

/-- A grammar with enough levels for an input: each level reads a token before the next one is
entered. -/
def ofInput (input : ParserInput) : Grammar := level (input.tokens.size + 2)

end Grammar

/-- The result of parsing. A value can come with the first error inside a definition that was
skipped. -/
inductive ParseResult (α : Type) where
  | accepted (value : α) (recovered : Option SyntaxError)
  | rejected (error : SyntaxError)
  /-- The levels of nesting did not suffice. -/
  | exhausted

structure Script where
  statements : List Query
  comments : List Comment

namespace Parser

variable {α : Type}

/-- The input and the first state of a parser for a source. Lexical errors are noted first. -/
def start (dialect : Dialect) (source : Bytes) : ParserInput × ParserState :=
  let stream := TokenStream.ofSource dialect.lexicon source
  (⟨stream.tokens.toArray, dialect⟩, { errors := stream.errors.map .lexical })

def result (answer : Option (α × ParserState)) : ParseResult α :=
  match answer with
  | none => .exhausted
  | some (value, state) =>
    match state.errors with
    | error :: _ => .rejected error
    | [] => .accepted value state.recovered.head?

/-- One statement with an optional semicolon, and nothing after it. -/
def statement (grammar : Grammar) : Parser Query := do
  let query ← grammar.query
  discard <| accept Symbol.semicolon
  let token ← current
  when (token.kind != .endOfInput && !(← failedSince 0)) (fault (.unexpectedInput token))
  return query

def semicolons : Parser Unit := do
  discard <| repeated (do
    if ← accept Symbol.semicolon then return some () else return none) ((← remaining) + 1)

/-- The next statement of a script, if there is one and no error so far. -/
def nextStatement (grammar : Grammar) : Parser (Option Query) := do
  if ← failedSince 0 then return none
  semicolons
  if ← check .endOfInput then return none
  let query ← grammar.query
  if ← failedSince 0 then return none
  let token ← current
  when (token.kind != .endOfInput && token.kind != Symbol.semicolon)
    (unexpected Symbol.semicolon.text)
  return some query

def statements (grammar : Grammar) : Parser (List Query) := do
  repeated (nextStatement grammar) ((← remaining) + 1)

end Parser

def Query.parse (dialect : Dialect) (source : Bytes) : ParseResult Query :=
  let (input, state) := Parser.start dialect source
  Parser.result (Parser.statement (Grammar.ofInput input) input state)

def Script.parse (dialect : Dialect) (source : Bytes) : ParseResult Script :=
  let (input, state) := Parser.start dialect source
  let comments := (TokenStream.ofSource dialect.lexicon source).comments
  match Parser.result (Parser.statements (Grammar.ofInput input) input state) with
  | .accepted statements recovered => .accepted ⟨statements, comments⟩ recovered
  | .rejected error => .rejected error
  | .exhausted => .exhausted

end QueryLint
