import QueryLint.Parser.Error
import QueryLint.Syntax.Walk

/-!
Reading tokens. A parser moves a cursor over the tokens of a source and notes errors as it goes:
after an error it may continue, and whoever called it looks at the errors to see whether it
succeeded. The cursor never leaves the last token, which marks the end of the input.

Parsers are bounded: one that runs out of its bound gives no answer at all, which is different
from every answer with errors.
-/

namespace QueryLint

structure ParserInput where
  tokens : Array Token
  dialect : Dialect

structure ParserState where
  index : Nat := 0
  /-- Errors that spoil the statement, oldest first. -/
  errors : List SyntaxError := []
  /-- Errors inside definitions that were skipped, oldest first. -/
  recovered : List SyntaxError := []

/-- A computation that reads tokens; `none` if its bound was too small. -/
def Parser (α : Type) : Type := ParserInput → ParserState → Option (α × ParserState)

namespace Parser

variable {α β : Type}

instance : Monad Parser where
  pure a := fun _ state => some (a, state)
  bind p f := fun input state =>
    match p input state with
    | some (a, state') => f a input state'
    | none => none

def exhausted : Parser α := fun _ _ => none

def input : Parser ParserInput := fun input state => some (input, state)

def state : Parser ParserState := fun _ state => some (state, state)

def update (f : ParserState → ParserState) : Parser Unit := fun _ state => some ((), f state)

def dialect : Parser Dialect := do return (← input).dialect

end Parser

namespace ParserInput

/-- The token at an index, the last one beyond the end. -/
def token (input : ParserInput) (index : Nat) : Token :=
  (input.tokens[index]?).getD ((input.tokens.back?).getD default)

/-- The index after `index`; the last token is not left. -/
def following (input : ParserInput) (index : Nat) : Nat :=
  if index + 1 < input.tokens.size then index + 1 else index

def rest (input : ParserInput) (index : Nat) : List Token := input.tokens.toList.drop index

end ParserInput

namespace Parser

/-! ### The cursor -/

def current : Parser Token := fun input state => some (input.token state.index, state)

def lookahead : Parser Token := fun input state => some (input.token (state.index + 1), state)

def position : Parser Position := do return (← current).span.start

def index : Parser Nat := do return (← state).index

/-- Moves to the next token; the last token is not left. -/
def advance : Parser Unit := fun input state =>
  some ((), { state with index := input.following state.index })

/-- Moves to the token at an index, or to the last one. -/
def seek (index : Nat) : Parser Unit := fun input state =>
  some ((), { state with index := min index (input.tokens.size - 1) })

def remaining : Parser Nat := fun input state => some (input.tokens.size - state.index, state)

def previousEnd : Parser Position := fun input state =>
  some (if state.index = 0 then (input.token 0).span.start
    else (input.token (state.index - 1)).span.stop, state)

def spanFrom (start : Position) : Parser Span := do return ⟨start, ← previousEnd⟩

/-! ### Errors -/

def addError (error : SyntaxError) : Parser Unit :=
  update fun state => { state with errors := state.errors ++ [error] }

def fault (what : SyntaxFault) : Parser Unit := do
  addError (.syntactic (← position) what)

def mark : Parser Nat := do return (← state).errors.length

def failedSince (mark : Nat) : Parser Bool := do return mark < (← state).errors.length

/-! ### Single tokens -/

def check (kind : TokenKind) : Parser Bool := do return (← current).kind == kind

def checkNext (kind : TokenKind) : Parser Bool := do return (← lookahead).kind == kind

def accept (kind : TokenKind) : Parser Bool := do
  if ← check kind then
    advance
    return true
  else return false

def unexpected (expected : String) : Parser Unit := do
  fault (.unexpected (← current) expected)

/-- Reads a token of the given kind and notes an error if it is not there. -/
def expect (kind : TokenKind) : Parser Bool := do
  if ← accept kind then return true
  else
    unexpected kind.text
    return false

/-- Whether the current token is an unreserved word with this spelling. -/
def checkWord (word : String) : Parser Bool := do
  let token ← current
  return token.kind == .identifier && token.spells word

def when (condition : Bool) (p : Parser Unit) : Parser Unit := if condition then p else pure ()

/-! ### Lists -/

def repeated (step : Parser (Option α)) : Nat → Parser (List α)
  | 0 => exhausted
  | bound + 1 => do
    match ← step with
    | some a => return a :: (← repeated step bound)
    | none => return []

def chain (step : Parser (α × Bool)) : Nat → Parser (List α)
  | 0 => exhausted
  | bound + 1 => do
    let (a, more) ← step
    if more then return a :: (← chain step bound) else return [a]

/-- Elements separated by commas, up to the first one that fails. -/
def commaSeparated (element : Parser α) : Parser (List α) := do
  let mark ← mark
  chain (do
    let a ← element
    if ← failedSince mark then return (a, false)
    return (a, ← accept Symbol.comma)) ((← remaining) + 1)

end Parser

/-! ### Parentheses -/

namespace Token

/-- How far after the start of the tokens the parenthesis stands that closes the first one, where
`depth` parentheses are open already. -/
def closingOffset : Nat → List Token → Option Nat
  | _, [] => none
  | depth, token :: rest =>
    match token.kind with
    | .symbol .leftParen => (closingOffset (depth + 1) rest).map (· + 1)
    | .symbol .rightParen =>
      if depth = 1 then some 0 else (closingOffset (depth - 1) rest).map (· + 1)
    | .endOfInput => none
    | _ => (closingOffset depth rest).map (· + 1)

/-- Whether tokens begin a query: `SELECT`, `WITH`, or a query in parentheses that is the first
operand of a set operation. -/
def startQuery : List Token → Bool
  | [] => false
  | token :: rest =>
    match token.kind with
    | .keyword .SELECT | .keyword .WITH => true
    | .symbol .leftParen =>
      startQuery rest &&
        match closingOffset 0 (token :: rest) with
        | some offset => ((token :: rest)[offset + 1]?).any (·.kind.isSetOperation)
        | none => false
    | _ => false

end Token

namespace ParserInput

def closing? (input : ParserInput) (opening : Nat) : Option Nat :=
  (Token.closingOffset 0 (input.rest opening)).map (opening + ·)

def startsQuery (input : ParserInput) (index : Nat) : Bool := Token.startQuery (input.rest index)

end ParserInput

end QueryLint
