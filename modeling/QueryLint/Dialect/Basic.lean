import QueryLint.Token.Piece

/-!
Dialects as data: how names are written and compared, which functions are aggregates, and which
words, operators, clauses, joins and special forms the parser accepts. A special form is named
here and read by the parser; a dialect only says which token introduces it.
-/

namespace QueryLint

inductive NameCase where
  | lower
  | upper
  | sensitive
  | insensitive
deriving DecidableEq, Repr, Inhabited

namespace NameCase

def text : NameCase → String
  | .lower => "lower"
  | .upper => "upper"
  | .sensitive => "sensitive"
  | .insensitive => "insensitive"

def normalize : NameCase → String → String
  | .lower, name => Text.lower name
  | .upper, name => Text.upper name
  | .sensitive, name => name
  | .insensitive, name => Text.fold name

end NameCase

/-- How names are quoted: the opening and closing quote, and how a closing quote inside a name is
written. -/
structure NameQuoting where
  opening : String := "\""
  closing : String := "\""
  escape : String := "\"\""

inductive FunctionKind where
  | scalar
  | aggregate
  | generator
  | window
  | table
deriving DecidableEq, Repr, Inhabited

namespace FunctionKind

def text : FunctionKind → String
  | .scalar => "scalar"
  | .aggregate => "aggregate"
  | .generator => "generator"
  | .window => "window"
  | .table => "table"

def all : List FunctionKind := [.scalar, .aggregate, .generator, .window, .table]

end FunctionKind

inductive ClauseSlot where
  | where
  | groupBy
  | having
  | window
  | orderBy
  | limit
  | offset
  | qualify
  | extensions
deriving DecidableEq, Repr, Inhabited

namespace ClauseSlot

def text : ClauseSlot → String
  | .where => "WHERE"
  | .groupBy => "GROUP BY"
  | .having => "HAVING"
  | .window => "WINDOW"
  | .orderBy => "ORDER BY"
  | .limit => "LIMIT"
  | .offset => "OFFSET"
  | .qualify => "QUALIFY"
  | .extensions => "EXTENSIONS"

def all : List ClauseSlot :=
  [.where, .groupBy, .having, .window, .orderBy, .limit, .offset, .qualify, .extensions]

end ClauseSlot

inductive ClauseForm where
  /-- One expression. -/
  | expression
  /-- The word `BY` and expressions. -/
  | grouping
  /-- The word `BY` and expressions with a direction. -/
  | ordering
  /-- Named window definitions. -/
  | windows
deriving DecidableEq, Repr, Inhabited

/-- A clause after `FROM`: the token that introduces it, what is read and where that goes. A clause
without a form is known but cannot be read. -/
structure ClauseRule where
  kind : TokenKind
  form : Option ClauseForm
  slot : ClauseSlot
  keywords : List String := []
  inline : Bool := false
deriving DecidableEq, Repr, Inhabited

inductive OpeningForm where
  /-- Written `[a, b]`. -/
  | arrayLiteral
  /-- Written `ARRAY(query)`, `ARRAY[a, b]` or `ARRAY<T>[a, b]`. -/
  | array
  /-- Written `STRUCT(a AS x, b)` or `STRUCT<T>(a, b)`. -/
  | struct
deriving DecidableEq, Repr, Inhabited

inductive ContinuingForm where
  /-- Written `a[i]`. -/
  | subscript
deriving DecidableEq, Repr, Inhabited

inductive StarForm where
  | except
  | replace
deriving DecidableEq, Repr, Inhabited

inductive SourceForm where
  | pivot
  | unpivot
deriving DecidableEq, Repr, Inhabited

inductive JoinKind where
  | inner
  | left
  | right
  | full
  | cross
  | comma
deriving DecidableEq, Repr, Inhabited

namespace JoinKind

def text : JoinKind → String
  | .inner => "INNER"
  | .left => "LEFT"
  | .right => "RIGHT"
  | .full => "FULL"
  | .cross => "CROSS"
  | .comma => ","

end JoinKind

/-- A word before `JOIN`, a further word that may follow it, and the conditions that it takes. -/
structure JoinRule where
  kind : TokenKind
  join : JoinKind
  optional : Option TokenKind := none
  requiresOn : Bool := true
  allowsUsing : Bool := true
deriving DecidableEq, Repr, Inhabited

/-- Binding strength of operators; a larger number binds tighter and zero is no operator. -/
abbrev Precedence := Int

namespace Precedence

def none : Precedence := 0
def or : Precedence := 1
def and : Precedence := 2
def not : Precedence := 3
def comparison : Precedence := 4
def bitOr : Precedence := 5
def bitXor : Precedence := 6
def bitAnd : Precedence := 7
def shift : Precedence := 8
def addition : Precedence := 9
def multiplication : Precedence := 10
def sign : Precedence := 11
def postfixed : Precedence := 12

end Precedence

def setKey {κ ν : Type} [BEq κ] (key : κ) (value : ν) : List (κ × ν) → List (κ × ν)
  | [] => [(key, value)]
  | entry :: rest =>
    if entry.1 == key then (key, value) :: rest else entry :: setKey key value rest

theorem lookup_setKey_eq {κ ν : Type} [BEq κ] [LawfulBEq κ] (key other : κ) (value : ν)
    (entries : List (κ × ν)) :
    (setKey key value entries).lookup other =
      if other == key then some value else entries.lookup other := by
  induction entries with
  | nil =>
    rw [setKey, List.lookup_cons]
    cases other == key <;> rfl
  | cons entry rest ih =>
    rw [setKey]
    by_cases same : entry.1 == key
    · rw [if_pos same, List.lookup_cons, List.lookup_cons, eq_of_beq same]
      cases other == key <;> rfl
    · rw [if_neg same, List.lookup_cons, List.lookup_cons, ih]
      cases found : other == entry.1 with
      | false => rfl
      | true =>
        have apart : ¬(other == key) = true := eq_of_beq found ▸ same
        exact (if_neg apart).symm

structure Dialect where
  name : String
  quoting : NameQuoting := {}
  nameCase : NameCase := .lower
  /-- Function names by kind, in normal form. -/
  aggregates : List String := []
  generators : List String := []
  windows : List String := []
  tableFunctions : List String := []
  /-- Words that a name must not be without quotes, in upper case. -/
  reserved : List String := []
  dataTypes : List String := []
  /-- Further symbols of the lexer. -/
  symbols : List (String × TokenKind) := []
  /-- Further keywords of the lexer, in upper case. -/
  words : List (String × TokenKind) := []
  /-- The clauses in the order in which they may be written. -/
  clauses : List ClauseRule := []
  precedences : List (TokenKind × Precedence) := []
  openingForms : List (TokenKind × OpeningForm) := []
  continuingForms : List (TokenKind × ContinuingForm) := []
  starForms : List (TokenKind × StarForm) := []
  sourceForms : List (TokenKind × SourceForm) := []
  joins : List (TokenKind × JoinRule) := []

namespace Dialect

/-! ### Building -/

def addNames (dialect : Dialect) (names known : List String) : List String :=
  names.foldl (fun acc name => acc.insert (dialect.nameCase.normalize name)) known

def addAggregates (dialect : Dialect) (names : List String) : Dialect :=
  { dialect with aggregates := dialect.addNames names dialect.aggregates }

def addGenerators (dialect : Dialect) (names : List String) : Dialect :=
  { dialect with generators := dialect.addNames names dialect.generators }

def addWindows (dialect : Dialect) (names : List String) : Dialect :=
  { dialect with windows := dialect.addNames names dialect.windows }

def addTableFunctions (dialect : Dialect) (names : List String) : Dialect :=
  { dialect with tableFunctions := dialect.addNames names dialect.tableFunctions }

def addReserved (dialect : Dialect) (words : List String) : Dialect :=
  { dialect with
    reserved := words.foldl (fun acc word => acc.insert (Text.upper word)) dialect.reserved }

def addDataTypes (dialect : Dialect) (types : List String) : Dialect :=
  { dialect with dataTypes := dialect.dataTypes ++ types }

def addSymbol (dialect : Dialect) (symbol : String) (kind : TokenKind) : Dialect :=
  { dialect with symbols := setKey symbol kind dialect.symbols }

def addWord (dialect : Dialect) (word : String) (kind : TokenKind) : Dialect :=
  { dialect with
    words := setKey (Text.upper word) kind dialect.words
    reserved := dialect.reserved.insert (Text.upper word) }

def withClauses (dialect : Dialect) (clauses : List ClauseRule) : Dialect :=
  { dialect with clauses }

def addOperator (dialect : Dialect) (kind : TokenKind) (precedence : Precedence) : Dialect :=
  { dialect with precedences := setKey kind precedence dialect.precedences }

def addOperators (dialect : Dialect) (operators : List (TokenKind × Precedence)) : Dialect :=
  operators.foldl (fun acc (kind, precedence) => acc.addOperator kind precedence) dialect

def addOpeningForm (dialect : Dialect) (kind : TokenKind) (form : OpeningForm) : Dialect :=
  { dialect with openingForms := setKey kind form dialect.openingForms }

def addContinuingForm (dialect : Dialect) (kind : TokenKind) (form : ContinuingForm) : Dialect :=
  { dialect with continuingForms := setKey kind form dialect.continuingForms }

def addStarForm (dialect : Dialect) (kind : TokenKind) (form : StarForm) : Dialect :=
  { dialect with starForms := setKey kind form dialect.starForms }

def addSourceForm (dialect : Dialect) (kind : TokenKind) (form : SourceForm) : Dialect :=
  { dialect with sourceForms := setKey kind form dialect.sourceForms }

def addJoins (dialect : Dialect) (joins : List JoinRule) : Dialect :=
  { dialect with joins := joins.foldl (fun acc join => setKey join.kind join acc) dialect.joins }

/-! ### Names -/

def normalizeName (dialect : Dialect) (name : String) : String := dialect.nameCase.normalize name

/-- The kind of a function; a name in several lists counts for the first of table function,
aggregate, generator and window function. -/
def functionKind (dialect : Dialect) (name : String) : FunctionKind :=
  let name := dialect.normalizeName name
  if dialect.tableFunctions.contains name then .table
  else if dialect.aggregates.contains name then .aggregate
  else if dialect.generators.contains name then .generator
  else if dialect.windows.contains name then .window
  else .scalar

def isAggregate (dialect : Dialect) (name : String) : Bool :=
  dialect.functionKind name == .aggregate

def isReserved (dialect : Dialect) (word : String) : Bool :=
  dialect.reserved.contains (Text.upper word)

def quoteName (dialect : Dialect) (name : String) : String :=
  dialect.quoting.opening ++
    Text.replaceAll dialect.quoting.closing dialect.quoting.escape name ++ dialect.quoting.closing

def word? (dialect : Dialect) (word : String) : Option TokenKind :=
  dialect.words.lookup (Text.upper word)

/-! ### Parsing -/

def lexicon (dialect : Dialect) : Lexicon where
  symbols := dialect.symbols.map fun (symbol, kind) => (Text.encode symbol, kind)
  words := dialect.words

/-- The clause that a token introduces; of two rules for a token the later one counts. -/
def clause? (dialect : Dialect) (kind : TokenKind) : Option ClauseRule :=
  dialect.clauses.reverse.find? (·.kind == kind)

def precedence (dialect : Dialect) (kind : TokenKind) : Precedence :=
  (dialect.precedences.lookup kind).getD Precedence.none

def openingForm? (dialect : Dialect) (kind : TokenKind) : Option OpeningForm :=
  dialect.openingForms.lookup kind

def continuingForm? (dialect : Dialect) (kind : TokenKind) : Option ContinuingForm :=
  dialect.continuingForms.lookup kind

def starForm? (dialect : Dialect) (kind : TokenKind) : Option StarForm :=
  dialect.starForms.lookup kind

def sourceForm? (dialect : Dialect) (kind : TokenKind) : Option SourceForm :=
  dialect.sourceForms.lookup kind

def join? (dialect : Dialect) (kind : TokenKind) : Option JoinRule := dialect.joins.lookup kind

/-! ### Forms of other dialects

A token is read as another dialect reads it; nothing changes if that dialect has no such form. -/

def borrowOpening (dialect source : Dialect) (kind : TokenKind) : Dialect :=
  ((source.openingForm? kind).map (dialect.addOpeningForm kind)).getD dialect

/-- Reads `kind` as the other dialect reads `model`. -/
def borrowContinuing (dialect source : Dialect) (kind model : TokenKind) : Dialect :=
  ((source.continuingForm? model).map (dialect.addContinuingForm kind)).getD dialect

def borrowStar (dialect source : Dialect) (kind : TokenKind) : Dialect :=
  ((source.starForm? kind).map (dialect.addStarForm kind)).getD dialect

def borrowSource (dialect source : Dialect) (kind : TokenKind) : Dialect :=
  ((source.sourceForm? kind).map (dialect.addSourceForm kind)).getD dialect

end Dialect

end QueryLint
