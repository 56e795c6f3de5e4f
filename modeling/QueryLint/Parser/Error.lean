import QueryLint.Token.Stream

/-!
Why a source is no query. An error is a lexical error, a token that does not fit, or a malformed
special form; errors inside a special form are reported within the name of that form.
-/

namespace QueryLint

inductive SyntaxFault where
  /-- Something else was expected. -/
  | unexpected (found : Token) (expected : String)
  /-- Nothing can be read from here. -/
  | unexpectedInput (found : Token)
  | unreadableClause (clause : String)
  | unsupportedClause (clause dialect : String)
  | clauseOutOfOrder (clause : String)
  | unbalancedType
  | other (message : String)
deriving DecidableEq, Repr

namespace SyntaxFault

def message : SyntaxFault → String
  | .unexpected found expected =>
    "unexpected token " ++ found.describe ++ ", expected " ++ expected
  | .unexpectedInput found => "unexpected " ++ found.describe
  | .unreadableClause clause => "no handler registered for clause " ++ clause
  | .unsupportedClause clause dialect =>
    clause ++ " is not supported in " ++ dialect ++ " dialect"
  | .clauseOutOfOrder clause => clause ++ " clause is out of order"
  | .unbalancedType => "unbalanced '>' in type"
  | .other text => text

end SyntaxFault

inductive SyntaxError where
  | lexical (error : LexicalError)
  | syntactic (position : Position) (fault : SyntaxFault)
  /-- The word for an array is followed by nothing that makes one. -/
  | malformedArray (position : Position)
  /-- A pivoted value is no call of a function. -/
  | pivotWithoutCall (position : Position)
  | within (context : String) (error : SyntaxError)
deriving DecidableEq, Repr

namespace SyntaxError

/-- The words before a message that say where it applies. -/
def located (what : String) (position : Position) (message : String) : String :=
  what ++ " error at line " ++ toString position.line ++ ", column " ++
    toString position.column ++ ": " ++ message

def message : SyntaxError → String
  | .lexical error => located "lexer" error.position error.fault.message
  | .syntactic position fault => located "parse" position fault.message
  | .malformedArray position => "ARRAY: expected (, < or [ at " ++ position.render
  | .pivotWithoutCall position => "PIVOT: expected aggregate function at " ++ position.render
  | .within context error => context ++ ": " ++ error.message

def root : SyntaxError → SyntaxError
  | .within _ error => error.root
  | error => error

/-- Where the error is reported; malformed special forms only name their place. -/
def position? (error : SyntaxError) : Option Position :=
  match error.root with
  | .lexical cause => some cause.position
  | .syntactic position _ => some position
  | _ => none

end SyntaxError

end QueryLint
