import QueryLint.Parser.Grammar

/-!
Names: single words, dotted paths, aliases and type names.
-/

namespace QueryLint

structure PathSegment where
  name : String
  quoted : Bool
  span : Span

namespace PathSegment

/-- The segments that one token stands for: a quoted word with dots stands for several. -/
def ofToken (token : Token) : List PathSegment :=
  if token.quoted && token.text.toList.contains '.' then
    (Text.splitOn '.' token.text).map fun name => ⟨name, true, token.span⟩
  else [⟨token.text, token.quoted, token.span⟩]

theorem ofToken_ne_nil (token : Token) : ofToken token ≠ [] := by
  unfold ofToken
  split
  · exact fun none => Text.splitList_ne_nil _ _ (List.map_eq_nil_iff.1 (List.map_eq_nil_iff.1 none))
  · nofun

def join (path : List PathSegment) : String := ".".intercalate (path.map (·.name))

def columnRef (path : List PathSegment) (span : Span) : ColumnRef :=
  match path.map (·.name) with
  | [] => { span }
  | [column] => { span, column }
  | table :: column :: fields => { span, table, column, fields }

/-- Whether a path begins with `SAFE` and goes on, and the path without that word. -/
def splitSafe (path : List PathSegment) : Bool × List PathSegment :=
  match path with
  | first :: second :: rest =>
    if Text.sameIgnoringCase first.name "SAFE" then (true, second :: rest) else (false, path)
  | _ => (false, path)

/-- The table that a path is: its last segment is the name, the one before it the data set. -/
def tableName (path : List PathSegment) : TableName :=
  match (path.map (·.name)).reverse with
  | [] => {}
  | [name] => { name }
  | name :: dataset :: project => { project := ".".intercalate project.reverse, dataset, name }

end PathSegment

namespace Parser

/-- One or more segments with dots between them. The first token is taken whatever it is; a dot
is read only if a word follows it. -/
def pathWithin : Nat → Parser (List PathSegment)
  | 0 => exhausted
  | bound + 1 => do
    let token ← current
    advance
    let dotted ← check Symbol.dot
    if dotted && (← lookahead).isWord then
      advance
      return PathSegment.ofToken token ++ (← pathWithin bound)
    else return PathSegment.ofToken token

def path : Parser (List PathSegment) := do pathWithin ((← remaining) + 1)

end Parser

namespace Attempt

def identifier : Attempt String := do
  let token ← Parser.current
  if token.isWord then
    Parser.advance
    return token.text
  else unexpected TokenKind.identifier.text

def columnRef : Attempt ColumnRef := do
  let token ← Parser.current
  if token.isWord then
    let path ← Parser.path
    return PathSegment.columnRef path (← Parser.spanFrom token.span.start)
  else unexpected TokenKind.identifier.text

end Attempt

namespace Parser

/-- An alias with or without `AS`; without it only an unreserved word is one. -/
def aliasName : Parser (String × Span) := do
  if ← accept Keyword.AS then
    let token ← current
    match ← Attempt.identifier.orNote with
    | some name => return (name, token.span)
    | none => return ("", {})
  else
    let token ← current
    if token.kind == .identifier then
      advance
      return (token.text, token.span)
    else return ("", {})

/-! ### Types -/

/-- What a token adds to the text of a type, the levels that are open after it, and whether it is a
word. Words are set apart by a space; `>>` closes two levels. -/
def copyTypeToken (token : Token) (depth : Int) (afterWord : Bool) : String × Int × Bool :=
  match token.kind with
  | .symbol .less => ("<", depth + 1, false)
  | .symbol .greater => (">", depth - 1, false)
  | .symbol .shiftRight => (">>", depth - 2, false)
  | .symbol .comma => (", ", depth, false)
  | _ => ((if afterWord then " " else "") ++ token.text, depth, true)

/-- The arguments of a type, copied from its `<` on. -/
def typeArguments : Nat → Int → Bool → Parser String
  | 0, _, _ => exhausted
  | bound + 1, depth, afterWord => do
    let token ← current
    if token.kind = .endOfInput then
      unexpected Symbol.greater.text
      return ""
    let (text, depth, isWord) := copyTypeToken token depth afterWord
    advance
    if 0 < depth then return text ++ (← typeArguments bound depth isWord)
    when (depth < 0) (fault .unbalancedType)
    return text

def typeParameters : Nat → Parser String
  | 0 => exhausted
  | bound + 1 => do
    let token ← current
    if token.kind = .symbol .rightParen || token.kind = .endOfInput then return ""
    advance
    let text := if token.kind = .symbol .comma then ", " else token.text
    return text ++ (← typeParameters bound)

/-- A type such as `INT64`, `NUMERIC(10, 2)` or `ARRAY<STRUCT<a INT64>>`. -/
def typeName : Parser String := do
  let token ← current
  if !token.isWord then
    unexpected "type name"
    return ""
  advance
  let bound := (← remaining) + 1
  let arguments ← (if ← check Symbol.less then typeArguments bound 0 false else pure "")
  if ← accept Symbol.leftParen then
    let parameters ← typeParameters bound
    discard <| expect Symbol.rightParen
    return Text.upper token.text ++ arguments ++ "(" ++ parameters ++ ")"
  else return Text.upper token.text ++ arguments

end Parser

end QueryLint
