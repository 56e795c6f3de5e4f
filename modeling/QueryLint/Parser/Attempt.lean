import QueryLint.Parser.Basic

/-!
Readers that stop at the first error and hand it to their caller, who decides whether it is noted.
-/

namespace QueryLint

/-- A parser that gives a value or the error that stopped it. -/
abbrev Attempt (α : Type) : Type := ExceptT SyntaxError Parser α

namespace Attempt

variable {α : Type}

def exhausted : Attempt α := ExceptT.mk Parser.exhausted

def complete (p : Parser α) : Attempt α := do
  let mark ← Parser.mark
  let a ← p
  match (← Parser.state).errors[mark]? with
  | some error => throw error
  | none => return a

def within (context : String) (p : Attempt α) : Attempt α := ExceptT.mk do
  match ← p.run with
  | .ok a => return .ok a
  | .error error => return .error (.within context error)

def unexpected (expected : String) : Attempt α := do
  let token ← Parser.current
  throw (.syntactic token.span.start (.unexpected token expected))

def expect (kind : TokenKind) : Attempt Unit := do
  if ← Parser.accept kind then return ()
  else unexpected kind.text

def commaSeparatedWithin (element : Attempt α) : Nat → Attempt (List α)
  | 0 => exhausted
  | bound + 1 => do
    let a ← element
    if ← Parser.accept Symbol.comma then return a :: (← commaSeparatedWithin element bound)
    else return [a]

def commaSeparated (element : Attempt α) : Attempt (List α) := do
  commaSeparatedWithin element ((← Parser.remaining) + 1)

/-- Runs a reader; an error that stops it is noted. -/
def orNote (p : Attempt α) : Parser (Option α) := do
  match ← p.run with
  | .ok a => return some a
  | .error error =>
    Parser.addError error
    return none

end Attempt

end QueryLint
