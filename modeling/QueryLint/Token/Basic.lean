import QueryLint.Source.Position
import QueryLint.Text.Blank
import QueryLint.Text.Case
import QueryLint.Text.Quoted
import QueryLint.Token.Kind

/-!
Tokens and comments with the places where they stand in the source.
-/

namespace QueryLint

open Text (Bytes)

/-- A token. For strings and quoted identifiers `literal` holds the content that the source spells,
for all other tokens the source itself. -/
structure Token where
  kind : TokenKind
  literal : Bytes := []
  span : Span := {}
  /-- Whether an identifier was written between back quotes. -/
  quoted : Bool := false
deriving DecidableEq, Repr, Inhabited

namespace Token

def text (token : Token) : String := Text.decode token.literal

/-- Identifiers and reserved words alike: what may stand as a segment of a path. -/
def isWord (token : Token) : Bool := token.kind == .identifier || token.kind.isKeyword

def describe (token : Token) : String :=
  match token.kind with
  | .endOfInput => "end of input"
  | .identifier | .number | .string => token.kind.text ++ " " ++ Text.quoted token.text
  | kind => kind.text

def spells (token : Token) (word : String) : Bool := Text.sameIgnoringCase token.text word

end Token

inductive CommentKind where
  | line
  | block
deriving DecidableEq, Repr, Inhabited

structure Comment where
  kind : CommentKind
  literal : Bytes
  span : Span := {}
deriving DecidableEq, Repr, Inhabited

namespace Comment

def text (comment : Comment) : String := Text.decode comment.literal

/-- The text without its delimiters and without white space at its ends. -/
def bodyOf (text : String) : String :=
  Text.trim <|
    match Text.afterStart? "--" text, Text.afterStart? "#" text, Text.afterStart? "/*" text with
    | some body, _, _ => body
    | none, some body, _ => body
    | none, none, some body => (Text.beforeEnd? "*/" body).getD body
    | none, none, none => text

def body (comment : Comment) : String := bodyOf comment.text

end Comment

end QueryLint
