import QueryLint.Parser.Script
import QueryLint.Proofs.Parser.Gives

/-!
Expressions without the places where they stand, and how tokens spell them. A term is built from
literals, column references, parentheses and operators; `Term.At` says that a range of tokens
spells it, `Term.Denotes` that an expression has its shape. A term respects precedence when its
operands, as far as they are not in parentheses, bind at least as tightly as its operator.
-/

namespace QueryLint

/-! ### Operators -/

inductive UnaryOperator where
  | not | minus | plus | complement
deriving DecidableEq, Repr, Inhabited

namespace UnaryOperator

def kind : UnaryOperator → TokenKind
  | .not => Keyword.NOT
  | .minus => Symbol.minus
  | .plus => Symbol.plus
  | .complement => Symbol.tilde

def level : UnaryOperator → Precedence
  | .not => .not
  | .minus | .plus | .complement => .sign

end UnaryOperator

inductive BinaryOperator where
  | or | and | equal | notEqual | less | greater | lessEqual | greaterEqual | bitOr | bitXor | bitAnd
  | shiftLeft | shiftRight | add | subtract | multiply | divide | remainder | concat
deriving DecidableEq, Repr, Inhabited

namespace BinaryOperator

def kind : BinaryOperator → TokenKind
  | .or => Keyword.OR
  | .and => Keyword.AND
  | .equal => Symbol.equal
  | .notEqual => Symbol.notEqual
  | .less => Symbol.less
  | .greater => Symbol.greater
  | .lessEqual => Symbol.lessEqual
  | .greaterEqual => Symbol.greaterEqual
  | .bitOr => Symbol.pipe
  | .bitXor => Symbol.caret
  | .bitAnd => Symbol.ampersand
  | .shiftLeft => Symbol.shiftLeft
  | .shiftRight => Symbol.shiftRight
  | .add => Symbol.plus
  | .subtract => Symbol.minus
  | .multiply => Symbol.star
  | .divide => Symbol.slash
  | .remainder => Symbol.percent
  | .concat => Symbol.concat

def level : BinaryOperator → Precedence
  | .or => .or
  | .and => .and
  | .equal | .notEqual | .less | .greater | .lessEqual | .greaterEqual => .comparison
  | .bitOr => .bitOr
  | .bitXor => .bitXor
  | .bitAnd => .bitAnd
  | .shiftLeft | .shiftRight => .shift
  | .add | .subtract => .addition
  | .multiply | .divide | .remainder | .concat => .multiplication

end BinaryOperator

/-! ### Terms -/

mutual

inductive Term where
  | literal (kind : LiteralKind) (value : String)
  /-- A string with the name of its type before it. -/
  | typed (typeName value : String)
  /-- A dotted name. -/
  | column (names : List String)
  | paren (inner : Term)
  | unary (operator : UnaryOperator) (operand : Term)
  | binary (left : Term) (operator : BinaryOperator) (right : Term)
  | isIn (operand : Term) (negated : Bool) (values : Terms)
  | like (operand : Term) (negated : Bool) (pattern : Term)
  | between (operand : Term) (negated : Bool) (low high : Term)
  | isNull (operand : Term) (negated : Bool)
  | isBool (operand : Term) (negated value : Bool)
  | index (operand place : Term)
  | field (operand : Term) (name : String)

/-- One or more terms with commas between them. -/
inductive Terms where
  | one (term : Term)
  | more (term : Term) (rest : Terms)

end

namespace Term

/-- How tightly the outermost operator binds; terms without one bind tightest. -/
def level : Term → Precedence
  | .literal .. | .typed .. | .column .. | .paren .. => Precedence.postfixed + 1
  | .unary operator _ => operator.level
  | .binary _ operator _ => operator.level
  | .isIn .. | .like .. | .between .. | .isNull .. | .isBool .. => .comparison
  | .index .. | .field .. => .postfixed

def isUnary : Term → Bool
  | .unary .. => true
  | _ => false

def isColumn : Term → Bool
  | .column _ => true
  | _ => false

end Term

mutual

/-- No operand without parentheses binds more loosely than its operator. Operands on the left may
bind as tightly as the operator, all others bind tighter; only operators before an operand can be
stacked. A dot after a column reference would belong to that reference. -/
def Term.Respects : Term → Prop
  | .literal .. | .typed .. | .column .. => True
  | .paren inner => inner.Respects
  | .unary operator operand => operand.Respects ∧ (operator.level < operand.level ∨
      operand.isUnary = true ∧ operand.level = operator.level)
  | .binary left operator right => left.Respects ∧ right.Respects ∧
      operator.level ≤ left.level ∧ operator.level < right.level
  | .isIn operand _ values => operand.Respects ∧ Precedence.comparison ≤ operand.level ∧
      values.Respect
  | .like operand _ pattern => operand.Respects ∧ pattern.Respects ∧
      Precedence.comparison ≤ operand.level ∧ Precedence.comparison < pattern.level
  | .between operand _ low high => operand.Respects ∧ low.Respects ∧ high.Respects ∧
      Precedence.comparison ≤ operand.level ∧ Precedence.comparison < low.level ∧
      Precedence.comparison < high.level
  | .isNull operand _ | .isBool operand _ _ =>
    operand.Respects ∧ Precedence.comparison ≤ operand.level
  | .index operand place => operand.Respects ∧ place.Respects ∧ Precedence.postfixed ≤ operand.level
  | .field operand _ => operand.Respects ∧ Precedence.postfixed ≤ operand.level ∧
      operand.isColumn = false

def Terms.Respect : Terms → Prop
  | .one term => term.Respects
  | .more term rest => term.Respects ∧ rest.Respect

end

/-! ### Spelling -/

def LiteralKind.Spelt : LiteralKind → TokenKind → Prop
  | .number, kind => kind = .number
  | .string, kind => kind = .string
  | .bool, kind => kind = Keyword.TRUE ∨ kind = Keyword.FALSE
  | .null, kind => kind = Keyword.NULL

def truthWord : Bool → Keyword
  | true => .TRUE
  | false => .FALSE

/-- Whether a dotted name may begin with a token of this kind. -/
def TokenKind.startsColumn (kind : TokenKind) : Bool :=
  (kind == .identifier || kind.isSoft || kind.isWord) &&
    (Dialect.bigQuery.openingForm? kind).isNone

section Spelling

variable (input : ParserInput)

/-- The tokens of a range are a dotted name; each stands for one name, or for several if it is
quoted and has dots in it. -/
inductive NamesAt : List String → Nat → Nat → Prop
  | last (i : Nat) : NamesAt ((PathSegment.ofToken (input.token i)).map (·.name)) i (i + 1)
  | next {names : List String} {i j : Nat} (dot : (input.token (i + 1)).kind = Symbol.dot)
      (word : (input.token (i + 2)).isWord = true) (rest : NamesAt names (i + 2) j) :
      NamesAt ((PathSegment.ofToken (input.token i)).map (·.name) ++ names) i j

def NegationAt (negated : Bool) (i j : Nat) : Prop :=
  if negated then (input.token i).kind = Keyword.NOT ∧ j = i + 1 else j = i

mutual

/-- The tokens from one index up to but not including another spell the term. -/
def Term.At : Term → Nat → Nat → Prop
  | .literal kind value, i, j =>
    kind.Spelt (input.token i).kind ∧ (input.token i).text = value ∧ j = i + 1
  | .typed typeName value, i, j =>
    (input.token i).kind.startsColumn = true ∧ (input.token i).quoted = false ∧
      Text.upper (input.token i).text = typeName ∧ typeName ∈ Grammar.literalTypes ∧
      (input.token (i + 1)).kind = .string ∧ (input.token (i + 1)).text = value ∧ j = i + 2
  | .column names, i, j => (input.token i).kind.startsColumn = true ∧ NamesAt input names i j
  | .paren inner, i, j => ∃ m, (input.token i).kind = Symbol.leftParen ∧ inner.At (i + 1) m ∧
      (input.token m).kind = Symbol.rightParen ∧ j = m + 1
  | .unary operator operand, i, j => (input.token i).kind = operator.kind ∧ operand.At (i + 1) j
  | .binary left operator right, i, j => ∃ m, left.At i m ∧ (input.token m).kind = operator.kind ∧
      right.At (m + 1) j
  | .isIn operand negated values, i, j => ∃ m n k, operand.At i m ∧ NegationAt input negated m n ∧
      (input.token n).kind = Keyword.IN ∧ (input.token (n + 1)).kind = Symbol.leftParen ∧
      values.At (n + 2) k ∧ (input.token k).kind = Symbol.rightParen ∧ j = k + 1
  | .like operand negated pattern, i, j => ∃ m n, operand.At i m ∧ NegationAt input negated m n ∧
      (input.token n).kind = Keyword.LIKE ∧ pattern.At (n + 1) j
  | .between operand negated low high, i, j => ∃ m n k, operand.At i m ∧
      NegationAt input negated m n ∧ (input.token n).kind = Keyword.BETWEEN ∧ low.At (n + 1) k ∧
      (input.token k).kind = Keyword.AND ∧ high.At (k + 1) j
  | .isNull operand negated, i, j => ∃ m n, operand.At i m ∧ (input.token m).kind = Keyword.IS ∧
      NegationAt input negated (m + 1) n ∧ (input.token n).kind = Keyword.NULL ∧ j = n + 1
  | .isBool operand negated value, i, j => ∃ m n, operand.At i m ∧
      (input.token m).kind = Keyword.IS ∧ NegationAt input negated (m + 1) n ∧
      (input.token n).kind = truthWord value ∧ j = n + 1
  | .index operand place, i, j => ∃ m n, operand.At i m ∧
      (input.token m).kind = Symbol.leftBracket ∧ place.At (m + 1) n ∧
      (input.token n).kind = Symbol.rightBracket ∧ j = n + 1
  | .field operand name, i, j => ∃ m, operand.At i m ∧ (input.token m).kind = Symbol.dot ∧
      (input.token (m + 1)).isWord = true ∧ (input.token (m + 1)).text = name ∧ j = m + 2

def Terms.At : Terms → Nat → Nat → Prop
  | .one term, i, j => term.At i j
  | .more term rest, i, j => ∃ m, term.At i m ∧ (input.token m).kind = Symbol.comma ∧
      rest.At (m + 1) j

end

end Spelling

/-! ### Meaning -/

/-- The reference that a dotted name is: the first of several names is the table, and those after the
column are fields of it. -/
inductive NamesColumn (span : Span) : List String → ColumnRef → Prop
  | single (column : String) : NamesColumn span [column] { span, column }
  | several (table column : String) (fields : List String) :
      NamesColumn span (table :: column :: fields) { span, table, column, fields }

mutual

/-- The expression has the shape of the term; only spans are left open. -/
def Term.Denotes : Term → Expr → Prop
  | .literal kind value, e => ∃ span, e = .literal { span, kind, value }
  | .typed typeName value, e => ∃ span, e = .literal { span, kind := .string, value, typeName }
  | .column names, e => ∃ span ref, e = .column ref ∧ NamesColumn span names ref
  | .paren inner, e => ∃ span x, e = .paren span x ∧ inner.Denotes x
  | .unary operator operand, e => ∃ span x, e = .unary span operator.kind x ∧ operand.Denotes x
  | .binary left operator right, e => ∃ span x y, e = .binary span x operator.kind y ∧
      left.Denotes x ∧ right.Denotes y
  | .isIn operand negated values, e => ∃ span x list, e = .inValues span x negated list ∧
      operand.Denotes x ∧ values.Denote list
  | .like operand negated pattern, e => ∃ span x y, e = .like span x negated y ∧
      operand.Denotes x ∧ pattern.Denotes y
  | .between operand negated low high, e => ∃ span x y z, e = .between span x negated y z ∧
      operand.Denotes x ∧ low.Denotes y ∧ high.Denotes z
  | .isNull operand negated, e => ∃ span x, e = .isNull span x negated ∧ operand.Denotes x
  | .isBool operand negated value, e => ∃ span x, e = .isBool span x negated value ∧
      operand.Denotes x
  | .index operand place, e => ∃ span x y, e = .index span x y "" ∧ operand.Denotes x ∧
      place.Denotes y
  | .field operand name, e => ∃ span x, e = .field span x name ∧ operand.Denotes x

def Terms.Denote : Terms → List Expr → Prop
  | .one term, list => ∃ e, list = [e] ∧ term.Denotes e
  | .more term rest, list => ∃ e others, list = e :: others ∧ term.Denotes e ∧ rest.Denote others

end

/-- An expression with the shape of a term is there, and it is no call. -/
theorem Term.Denotes.plain {term : Term} {e : Expr} (denotes : term.Denotes e) :
    e.isMissing = false ∧ Grammar.subscriptMode e = ("", e) := by
  cases term with
  | literal | typed =>
    obtain ⟨_, rfl⟩ := denotes
    exact ⟨rfl, rfl⟩
  | column | paren | unary | isNull | isBool | field =>
    obtain ⟨_, _, rfl, _⟩ := denotes
    exact ⟨rfl, rfl⟩
  | binary | isIn | like | index =>
    obtain ⟨_, _, _, rfl, _⟩ := denotes
    exact ⟨rfl, rfl⟩
  | between =>
    obtain ⟨_, _, _, _, rfl, _⟩ := denotes
    exact ⟨rfl, rfl⟩

theorem PathSegment.namesColumn {path : List PathSegment} (some : path ≠ []) (span : Span) :
    NamesColumn span (path.map (·.name)) (columnRef path span) := by
  match path with
  | [] => exact absurd rfl some
  | [column] => exact .single column.name
  | table :: column :: fields => exact .several table.name column.name (fields.map (·.name))

/-! ### Ranges -/

theorem NamesAt.ne_nil {input : ParserInput} {names : List String} {i j : Nat}
    (spelt : NamesAt input names i j) : names ≠ [] := by
  have first : (PathSegment.ofToken (input.token i)).map (·.name) ≠ [] :=
    mt List.map_eq_nil_iff.1 (PathSegment.ofToken_ne_nil _)
  cases spelt with
  | last => exact first
  | next => exact List.append_ne_nil_of_left_ne_nil first _

theorem NamesAt.lt {input : ParserInput} {names : List String} {i j : Nat}
    (spelt : NamesAt input names i j) : i < j := by
  induction spelt with
  | last i => exact Nat.lt_succ_self i
  | next _ _ _ ih => omega

theorem NegationAt.le {input : ParserInput} {negated : Bool} {i j : Nat}
    (spelt : NegationAt input negated i j) : i ≤ j := by
  unfold NegationAt at spelt
  split at spelt <;> omega

mutual

theorem Term.At.lt {input : ParserInput} {term : Term} {i j : Nat} (spelt : term.At input i j) :
    i < j := by
  cases term with
  | literal =>
    obtain ⟨-, -, rfl⟩ := spelt
    omega
  | typed =>
    obtain ⟨-, -, -, -, -, -, rfl⟩ := spelt
    omega
  | column => exact spelt.2.lt
  | paren =>
    obtain ⟨m, -, inner, -, rfl⟩ := spelt
    have := inner.lt
    omega
  | unary =>
    have := spelt.2.lt
    omega
  | binary =>
    obtain ⟨m, left, -, right⟩ := spelt
    have := left.lt
    have := right.lt
    omega
  | isIn =>
    obtain ⟨m, n, k, operand, negation, -, -, values, -, rfl⟩ := spelt
    have := operand.lt
    have := negation.le
    have := values.lt
    omega
  | like =>
    obtain ⟨m, n, operand, negation, -, pattern⟩ := spelt
    have := operand.lt
    have := negation.le
    have := pattern.lt
    omega
  | between =>
    obtain ⟨m, n, k, operand, negation, -, low, -, high⟩ := spelt
    have := operand.lt
    have := negation.le
    have := low.lt
    have := high.lt
    omega
  | isNull | isBool =>
    obtain ⟨m, n, operand, -, negation, -, rfl⟩ := spelt
    have := operand.lt
    have := negation.le
    omega
  | index =>
    obtain ⟨m, n, operand, -, place, -, rfl⟩ := spelt
    have := operand.lt
    have := place.lt
    omega
  | field =>
    obtain ⟨m, operand, -, -, -, rfl⟩ := spelt
    have := operand.lt
    omega
termination_by structural term

theorem Terms.At.lt {input : ParserInput} {terms : Terms} {i j : Nat} (spelt : terms.At input i j) :
    i < j := by
  cases terms with
  | one => exact Term.At.lt spelt
  | more =>
    obtain ⟨m, first, -, rest⟩ := spelt
    have := first.lt
    have := rest.lt
    omega
termination_by structural terms

end

/-! ### Where no query begins -/

theorem ParserInput.startsQuery_eq_false {input : ParserInput} {i : Nat}
    (notSelect : (input.token i).kind ≠ Keyword.SELECT) (notWith : (input.token i).kind ≠ Keyword.WITH)
    (nested : (input.token i).kind = Symbol.leftParen → input.startsQuery (i + 1) = false) :
    input.startsQuery i = false := by
  by_cases inside : i < input.tokens.size
  · rw [startsQuery, rest_eq_cons inside, Token.startQuery]
    split
    · exact absurd ‹_› notSelect
    · exact absurd ‹_› notWith
    next opens =>
      rw [show Token.startQuery (input.rest (i + 1)) = false from nested opens, Bool.false_and]
    · rfl
  · have ended : input.rest i = [] :=
      List.drop_eq_nil_of_le (by rw [Array.length_toList]; omega)
    rw [startsQuery, ended]
    rfl

theorem ParserInput.startsQuery_of_kind {input : ParserInput} {i : Nat} {kind : TokenKind}
    (found : (input.token i).kind = kind)
    (other : kind ≠ Keyword.SELECT ∧ kind ≠ Keyword.WITH ∧ kind ≠ Symbol.leftParen) :
    input.startsQuery i = false := by
  subst found
  exact startsQuery_eq_false other.1 other.2.1 fun opens => absurd opens other.2.2

theorem TokenKind.ne_of_startsColumn {kind other : TokenKind} (starts : kind.startsColumn = true)
    (cannot : other.startsColumn = false) : kind ≠ other := by
  rintro rfl
  rw [starts] at cannot
  cases cannot

theorem ParserInput.startsQuery_of_startsColumn {input : ParserInput} {i : Nat}
    (starts : (input.token i).kind.startsColumn = true) : input.startsQuery i = false :=
  startsQuery_of_kind rfl ⟨TokenKind.ne_of_startsColumn starts (by decide),
    TokenKind.ne_of_startsColumn starts (by decide), TokenKind.ne_of_startsColumn starts (by decide)⟩

theorem Term.At.not_startsQuery {input : ParserInput} {term : Term} {i j : Nat}
    (spelt : term.At input i j) : input.startsQuery i = false := by
  cases term with
  | literal kind value =>
    obtain ⟨spelt, -, -⟩ := spelt
    cases kind with
    | bool =>
      rcases spelt with found | found <;> exact input.startsQuery_of_kind found (by decide)
    | _ => exact input.startsQuery_of_kind spelt (by decide)
  | typed =>
    obtain ⟨starts, _⟩ := spelt
    exact input.startsQuery_of_startsColumn starts
  | column names => exact input.startsQuery_of_startsColumn spelt.1
  | paren inner =>
    obtain ⟨m, opens, spelt, _⟩ := spelt
    refine input.startsQuery_eq_false ?_ ?_ fun _ => spelt.not_startsQuery
    · rw [opens]; decide
    · rw [opens]; decide
  | unary operator operand =>
    exact input.startsQuery_of_kind spelt.1 (by cases operator <;> decide)
  | binary | field =>
    obtain ⟨_, spelt, _⟩ := spelt
    exact spelt.not_startsQuery
  | like | isNull | isBool | index =>
    obtain ⟨_, _, spelt, _⟩ := spelt
    exact spelt.not_startsQuery
  | isIn | between =>
    obtain ⟨_, _, _, spelt, _⟩ := spelt
    exact spelt.not_startsQuery
termination_by structural term

theorem Terms.At.not_startsQuery {input : ParserInput} {terms : Terms} {i j : Nat}
    (spelt : terms.At input i j) : input.startsQuery i = false := by
  cases terms with
  | one => exact Term.At.not_startsQuery spelt
  | more =>
    obtain ⟨_, spelt, _⟩ := spelt
    exact spelt.not_startsQuery

end QueryLint
