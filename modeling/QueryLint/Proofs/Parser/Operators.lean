import QueryLint.Proofs.Parser.Terms

/-!
What the readers of operands and operators do where a term is spelt. Reading an expression first
takes an operand and then applies operators to it as long as they bind tighter than the context;
each reader takes the tokens of its form and gives an expression of its shape, provided the
expressions inside are read so.
-/

namespace QueryLint

open QueryLint.Parser

namespace TokenKind

/-- How tightly the operator binds that begins with such a token after an operand. -/
def followLevel : TokenKind → Precedence
  | .keyword .NOT => .comparison
  | .symbol .dot => .postfixed
  | kind => Dialect.bigQuery.precedence kind

/-- Whether such a token can continue an expression: it begins an operator, or belongs to a call or
to a literal after the name before it. -/
def continuesExpression (kind : TokenKind) : Bool :=
  kind.followLevel != Precedence.none || kind == Symbol.leftParen || kind == .string

end TokenKind

/-- What may follow a term so that the term ends there. -/
structure Term.EndsBefore (term : Term) (kind : TokenKind) : Prop where
  notCalled : kind ≠ Symbol.leftParen
  notTyped : kind ≠ .string
  level : kind.followLevel ≤ term.level
  notDotted : term.isColumn = true → kind ≠ Symbol.dot

/-! ### States -/

def ParserState.moved (s : ParserState) (i : Nat) : ParserState := { s with index := i }

namespace Parser

variable {input : ParserInput} {s : ParserState} {i : Nat} {kind : TokenKind}

theorem current_at : current input (s.moved i) = some (input.token i, s.moved i) := rfl

theorem position_at : position input (s.moved i) = some ((input.token i).span.start, s.moved i) := rfl

theorem input_at : Parser.input input (s.moved i) = some (input, s.moved i) := rfl

theorem index_at : index input (s.moved i) = some (i, s.moved i) := rfl

theorem lookahead_at : lookahead input (s.moved i) = some (input.token (i + 1), s.moved i) := rfl

theorem checkNext_at (kind : TokenKind) :
    checkNext kind input (s.moved i) = some ((input.token (i + 1)).kind == kind, s.moved i) := rfl

theorem dialect_at (bigQuery : input.dialect = Dialect.bigQuery) :
    dialect input (s.moved i) = some (Dialect.bigQuery, s.moved i) :=
  bigQuery ▸ rfl

theorem spanFrom_at (input : ParserInput) (s : ParserState) (i : Nat) (start : Position) :
    ∃ span, spanFrom start input (s.moved i) = some (span, s.moved i) :=
  ⟨_, rfl⟩

theorem check_at (found : (input.token i).kind = kind) :
    check kind input (s.moved i) = some (true, s.moved i) := by
  rw [check_eq]
  exact congrArg (fun b => some (b, s.moved i)) (beq_iff_eq.2 found)

theorem check_at_other (other : (input.token i).kind ≠ kind) :
    check kind input (s.moved i) = some (false, s.moved i) := by
  rw [check_eq]
  exact congrArg (fun b => some (b, s.moved i)) (beq_eq_false_iff_ne.2 other)

theorem advance_at (more : i + 1 < input.tokens.size) :
    advance input (s.moved i) = some ((), s.moved (i + 1)) := advance_eq more

theorem accept_at (more : i + 1 < input.tokens.size) (found : (input.token i).kind = kind) :
    accept kind input (s.moved i) = some (true, s.moved (i + 1)) := accept_eq_true more found

theorem accept_at_other (other : (input.token i).kind ≠ kind) :
    accept kind input (s.moved i) = some (false, s.moved i) := accept_eq_false other

theorem expect_at (more : i + 1 < input.tokens.size) (found : (input.token i).kind = kind) :
    expect kind input (s.moved i) = some (true, s.moved (i + 1)) := by
  rw [expect, bind_eq (accept_at more found)]
  rfl

theorem discard_eq {α : Type} {p : Parser α} {a : α} {s s' : ParserState}
    (run : p input s = some (a, s')) : (discard p : Parser Unit) input s = some ((), s') :=
  bind_eq run

end Parser

namespace Grammar

variable {input : ParserInput} {grammar : Grammar} {above : Precedence} {term : Term} {i j : Nat}

/-- A parser reads exactly the tokens of a term and gives an expression of its shape. -/
def Reads (input : ParserInput) (read : Parser Expr) (term : Term) (i j : Nat) : Prop :=
  ∀ s : ParserState, ∃ e, read input (s.moved i) = some (e, s.moved j) ∧ term.Denotes e

/-- Reading an expression comes to the loop over operators with a term as its operand. -/
def Reaches (input : ParserInput) (grammar : Grammar) (above : Precedence) (term : Term)
    (i j : Nat) : Prop :=
  ∀ s : ParserState, ∃ e bound, input.tokens.size - j < bound ∧ term.Denotes e ∧
    grammar.readExpression above input (s.moved i) =
      grammar.operators above s.errors.length bound e input (s.moved j)

/-! ### The loop -/

theorem nextOperator_none (bigQuery : input.dialect = Dialect.bigQuery) {s : ParserState}
    (stops : (input.token i).kind.followLevel ≤ above) (operand : Expr) :
    grammar.nextOperator above operand input (s.moved i) = some (none, s.moved i) := by
  rw [nextOperator, bind_eq current_at]
  generalize (input.token i).kind = kind at stops
  dsimp only
  split
  · have loose : ¬above < Precedence.comparison := Int.not_lt.2 stops
    rw [bind_eq lookahead_at]
    simp only [loose, decide_false, Bool.and_false, Bool.false_eq_true, if_false]
    rfl
  · have loose : ¬above < Precedence.postfixed := Int.not_lt.2 stops
    rw [if_neg loose]
    rfl
  next notNegation notDot =>
    have level : kind.followLevel = Dialect.bigQuery.precedence kind := by
      unfold TokenKind.followLevel
      split <;> simp_all
    rw [bind_eq (dialect_at bigQuery), ← level]
    simp only [stops, decide_true, Bool.or_true, if_true]
    rfl

theorem failedSince_at (s : ParserState) :
    failedSince s.errors.length input (s.moved i) = some (false, s.moved i) := by
  rw [failedSince_eq]
  exact congrArg (fun b => some (b, s.moved i)) (decide_eq_false (Nat.lt_irrefl _))

theorem operators_stop (bigQuery : input.dialect = Dialect.bigQuery) {s : ParserState}
    (stops : (input.token i).kind.followLevel ≤ above) {bound : Nat} (more : 0 < bound)
    (operand : Expr) :
    grammar.operators above s.errors.length bound operand input (s.moved i) =
      some (operand, s.moved i) := by
  obtain ⟨bound, rfl⟩ := Nat.exists_eq_add_one.2 more
  rw [operators, bind_eq (failedSince_at s), if_neg Bool.false_ne_true,
    bind_eq (nextOperator_none bigQuery stops operand)]
  rfl

theorem operators_step {s : ParserState} {operand applied : Expr} {bound : Nat}
    (step : grammar.nextOperator above operand input (s.moved i) = some (some applied, s.moved j)) :
    grammar.operators above s.errors.length (bound + 1) operand input (s.moved i) =
      grammar.operators above s.errors.length bound applied input (s.moved j) := by
  rw [operators, bind_eq (failedSince_at s), if_neg Bool.false_ne_true, bind_eq step]

theorem Reads.reaches (reads : Reads input grammar.operand term i j) :
    Reaches input grammar above term i j := by
  intro s
  obtain ⟨e, run, denotes⟩ := reads s
  refine ⟨e, input.tokens.size - j + 1, Nat.lt_succ_self _, denotes, ?_⟩
  have marked : mark input (s.moved i) = some (s.errors.length, s.moved i) := rfl
  rw [readExpression, bind_eq marked, bind_eq run, denotes.plain.1,
    if_neg Bool.false_ne_true]
  rfl

/-- An operator that is applied to a term brings the loop to the larger term. -/
theorem Reaches.apply {left : Term} {m : Nat} (reaches : Reaches input grammar above left i m)
    (forward : m < j) (inside : j < input.tokens.size)
    (step : ∀ (s : ParserState) (x : Expr), left.Denotes x → ∃ e, term.Denotes e ∧
      grammar.nextOperator above x input (s.moved m) = some (some e, s.moved j)) :
    Reaches input grammar above term i j := by
  intro s
  obtain ⟨x, bound, enough, denotes, run⟩ := reaches s
  obtain ⟨bound, rfl⟩ := Nat.exists_eq_add_one.2 (Nat.zero_lt_of_lt enough)
  obtain ⟨e, denotes', applied⟩ := step s x denotes
  exact ⟨e, bound, by omega, denotes', run.trans (operators_step applied)⟩

/-- One level further up, a term is read up to a token that ends it. -/
theorem Reaches.reads {n : Nat} (bigQuery : input.dialect = Dialect.bigQuery)
    (reaches : Reaches input (level n) above term i j)
    (stops : (input.token j).kind.followLevel ≤ above) :
    Reads input ((level (n + 1)).expressionAbove above) term i j := by
  intro s
  obtain ⟨e, bound, enough, denotes, run⟩ := reaches s
  exact ⟨e, run.trans (operators_stop bigQuery stops (Nat.zero_lt_of_lt enough) e), denotes⟩

end Grammar

namespace Grammar

variable {input : ParserInput} (bigQuery : input.dialect = Dialect.bigQuery) {grammar : Grammar}
  {above : Precedence} {i j : Nat}

/-! ### Operands -/

section Operands

include bigQuery

theorem operand_at {s : ParserState}
    (plain : Dialect.bigQuery.openingForm? (input.token i).kind = none) :
    grammar.operand input (s.moved i) = grammar.plainOperand (input.token i) input (s.moved i) := by
  rw [operand, bind_eq current_at, bind_eq (dialect_at bigQuery), plain]

theorem literal_reads {kind : LiteralKind} {value : String}
    (spelt : (Term.literal kind value).At input i j) (inside : j < input.tokens.size) :
    Reads input grammar.operand (.literal kind value) i j := by
  obtain ⟨spelt, text, rfl⟩ := spelt
  refine fun s => ⟨literalOf (input.token i) kind, ?_, (input.token i).span, by rw [literalOf, text]⟩
  have taken := bind_eq (s := s.moved i) (f := fun _ => pure (literalOf (input.token i) kind))
    (advance_at inside)
  cases kind with
  | bool =>
    rcases spelt with found | found
    all_goals
      rw [operand_at bigQuery (by rw [found]; decide), plainOperand, found]
      exact taken
  | _ =>
    rw [operand_at bigQuery (by rw [spelt]; decide), plainOperand, spelt]
    exact taken

theorem unary_reads {operator : UnaryOperator} {operand : Term}
    (found : (input.token i).kind = operator.kind) (inside : i + 1 < input.tokens.size)
    (reads : Reads input (grammar.expressionAbove operator.level) operand (i + 1) j) :
    Reads input grammar.operand (.unary operator operand) i j := by
  intro s
  obtain ⟨x, run, denotes⟩ := reads s
  obtain ⟨span, spanned⟩ := spanFrom_at input s j (input.token i).span.start
  have signed : grammar.operand input (s.moved i) =
      grammar.signed (input.token i) operator.level input (s.moved i) := by
    cases operator <;> rw [operand_at bigQuery (by rw [found]; decide), plainOperand, found] <;> rfl
  refine ⟨.unary span operator.kind x, ?_, span, x, rfl, denotes⟩
  rw [signed, Grammar.signed, bind_eq (advance_at inside), bind_eq run,
    denotes.plain.1, if_neg Bool.false_ne_true, bind_eq spanned, found]
  rfl

theorem paren_reads {inner : Term} {m : Nat} (opens : (input.token i).kind = Symbol.leftParen)
    (spelt : inner.At input (i + 1) m) (closes : (input.token m).kind = Symbol.rightParen)
    (inside : m + 1 < input.tokens.size)
    (reads : Reads input grammar.expression inner (i + 1) m) :
    Reads input grammar.operand (.paren inner) i (m + 1) := by
  intro s
  have forward := spelt.lt
  obtain ⟨x, run, denotes⟩ := reads s
  obtain ⟨span, spanned⟩ := spanFrom_at input s (m + 1) (input.token i).span.start
  have parenthesized : grammar.operand input (s.moved i) = grammar.parenthesized input (s.moved i) := by
    rw [operand_at bigQuery (by rw [opens]; decide), plainOperand, opens]
  have noComma : (input.token m).kind ≠ Symbol.comma := by rw [closes]; decide
  refine ⟨.paren span x, ?_, span, x, rfl, denotes⟩
  rw [parenthesized, Grammar.parenthesized, bind_eq position_at, bind_eq input_at, bind_eq index_at,
    spelt.not_startsQuery, bind_eq (advance_at (by omega)), if_neg Bool.false_ne_true, bind_eq run,
    denotes.plain.1, if_neg Bool.false_ne_true, bind_eq (check_at_other noComma), if_neg Bool.false_ne_true,
    bind_eq (discard_eq (expect_at inside closes)), bind_eq spanned]
  rfl

omit bigQuery in
theorem pathWithin_last {s : ParserState} {bound : Nat} (inside : i + 1 < input.tokens.size)
    (ends : (input.token (i + 1)).kind ≠ Symbol.dot) :
    pathWithin (bound + 1) input (s.moved i) =
      some (PathSegment.ofToken (input.token i), s.moved (i + 1)) := by
  rw [pathWithin, bind_eq current_at, bind_eq (advance_at inside), bind_eq (check_at_other ends),
    bind_eq lookahead_at, Bool.false_and, if_neg Bool.false_ne_true]
  rfl

omit bigQuery in
theorem names_read {names : List String} (spelt : NamesAt input names i j)
    (inside : j < input.tokens.size) (ends : (input.token j).kind ≠ Symbol.dot) (s : ParserState) :
    ∃ segments, path input (s.moved i) = some (segments, s.moved j) ∧
      segments.map (·.name) = names := by
  have within (bound : Nat) (enough : input.tokens.size - i < bound) :
      ∃ segments, pathWithin bound input (s.moved i) = some (segments, s.moved j) ∧
        segments.map (·.name) = names := by
    induction spelt generalizing bound with
    | last i =>
      obtain ⟨bound, rfl⟩ := Nat.exists_eq_add_one.2 (Nat.zero_lt_of_lt enough)
      exact ⟨_, pathWithin_last inside ends, rfl⟩
    | @next names i j dot word rest ih =>
      obtain ⟨bound, rfl⟩ := Nat.exists_eq_add_one.2 (Nat.zero_lt_of_lt enough)
      have later := rest.lt
      obtain ⟨segments, run, same⟩ := ih inside ends bound (by omega)
      refine ⟨PathSegment.ofToken (input.token i) ++ segments, ?_, by rw [List.map_append, same]⟩
      rw [pathWithin, bind_eq current_at, bind_eq (advance_at (by omega)), bind_eq (check_at dot),
        bind_eq lookahead_at, word, Bool.true_and, if_pos rfl, bind_eq (advance_at (by omega)),
        bind_eq run]
      rfl
  exact within _ (Nat.lt_succ_self _)

theorem nameExpression_at {s : ParserState} (starts : (input.token i).kind.startsColumn = true) :
    grammar.operand input (s.moved i) = grammar.nameExpression input (s.moved i) := by
  obtain ⟨word, form⟩ := Bool.and_eq_true_iff.1 starts
  have named : (do
      if startsName (input.token i) (← lookahead) then grammar.nameExpression
      else
        fault (.unexpectedInput (input.token i))
        return .missing : Parser Expr) input (s.moved i) =
      grammar.nameExpression input (s.moved i) := by
    rw [bind_eq lookahead_at, startsName, word, Bool.true_or, if_pos rfl]
  rw [operand_at bigQuery (Option.isNone_iff_eq_none.1 form), plainOperand]
  generalize (input.token i).kind = kind at word
  cases kind with
  | identifier | word => exact named
  | keyword keyword =>
    cases keyword with
    | FIRST | LAST | OFFSET | ROW | FILTER => exact named
    | _ => cases word
  | _ => cases word

theorem column_reads {names : List String} (spelt : (Term.column names).At input i j)
    (inside : j < input.tokens.size) (ends : (Term.column names).EndsBefore (input.token j).kind) :
    Reads input grammar.operand (.column names) i j := by
  intro s
  obtain ⟨starts, spelt⟩ := spelt
  obtain ⟨segments, run, rfl⟩ := names_read spelt inside (ends.notDotted rfl) s
  obtain ⟨span, spanned⟩ := spanFrom_at input s j (input.token i).span.start
  have notString : ((input.token j).kind == .string) = false := beq_eq_false_iff_ne.2 ends.notTyped
  refine ⟨.column (PathSegment.columnRef segments span), ?_, span, _, rfl,
    PathSegment.namesColumn (mt List.map_eq_nil_iff.2 spelt.ne_nil) span⟩
  rw [nameExpression_at bigQuery starts, nameExpression, bind_eq position_at, bind_eq run,
    bind_eq current_at, notString, if_neg Bool.false_ne_true]
  dsimp only
  rw [bind_eq (check_at_other ends.notCalled), if_neg Bool.false_ne_true,
    bind_eq (check_at_other (ends.notDotted rfl)), bind_eq (checkNext_at _), Bool.false_and,
    if_neg Bool.false_ne_true, bind_eq spanned]
  rfl

theorem typed_reads {typeName value : String} (spelt : (Term.typed typeName value).At input i j)
    (inside : j < input.tokens.size) : Reads input grammar.operand (.typed typeName value) i j := by
  intro s
  obtain ⟨starts, plain, upper, known, found, text, rfl⟩ := spelt
  obtain ⟨span, spanned⟩ := spanFrom_at input s (i + 2) (input.token i).span.start
  have run : path input (s.moved i) =
      some (PathSegment.ofToken (input.token i), s.moved (i + 1)) :=
    pathWithin_last (by omega) (by rw [found]; decide)
  have isType : literalType? (PathSegment.ofToken (input.token i)) = some typeName := by
    have listed : literalTypes.contains typeName = true := List.contains_iff_mem.2 known
    simp only [PathSegment.ofToken, plain, Bool.false_and, Bool.false_eq_true, if_false,
      literalType?, upper, Bool.not_false, Bool.true_and, listed, if_true]
  refine ⟨.literal { span, kind := .string, value, typeName }, ?_, span, rfl⟩
  rw [nameExpression_at bigQuery starts, nameExpression, bind_eq position_at, bind_eq run,
    bind_eq current_at, found, if_pos (by decide), isType]
  dsimp only
  rw [bind_eq (advance_at inside), bind_eq spanned, text]
  rfl

end Operands

end Grammar

/-! ### Readers that do not stop -/

namespace Attempt

variable {α β : Type} {input : ParserInput} {s s' : ParserState} {a : α}

theorem bind_ok {p : Attempt α} {f : α → Attempt β} (run : p.run input s = some (.ok a, s')) :
    (p >>= f).run input s = (f a).run input s' := bind_eq run

theorem lift_ok {q : Parser α} (run : q input s = some (a, s')) :
    (liftM q : Attempt α).run input s = some (.ok a, s') := bind_eq run

theorem orNote_ok {p : Attempt α} (run : p.run input s = some (.ok a, s')) :
    p.orNote input s = some (some a, s') := bind_eq run

theorem within_ok {p : Attempt α} (run : p.run input s = some (.ok a, s')) (context : String) :
    (within context p).run input s = some (.ok a, s') := bind_eq run

theorem expect_ok {kind : TokenKind} {i : Nat} (more : i + 1 < input.tokens.size)
    (found : (input.token i).kind = kind) :
    (expect kind).run input (s.moved i) = some (.ok (), s.moved (i + 1)) := by
  rw [expect, bind_ok (lift_ok (accept_at more found)), if_pos rfl]
  rfl

theorem complete_ok {p : Parser α} {i j : Nat} (run : p input (s.moved i) = some (a, s.moved j)) :
    (complete p).run input (s.moved i) = some (.ok a, s.moved j) := by
  have ended : s.errors[s.errors.length]? = none := List.getElem?_eq_none (Nat.le_refl _)
  rw [complete, bind_ok (lift_ok (rfl : mark input (s.moved i) = some (s.errors.length, s.moved i))),
    bind_ok (lift_ok run), bind_ok (lift_ok (rfl : state input (s.moved j) = some (s.moved j, _)))]
  change (verdict s.errors[s.errors.length]? a).run input (s.moved j) = _
  rw [ended]
  rfl

theorem identifier_ok {i : Nat} (more : i + 1 < input.tokens.size)
    (word : (input.token i).isWord = true) :
    identifier.run input (s.moved i) = some (.ok (input.token i).text, s.moved (i + 1)) := by
  rw [identifier, bind_ok (lift_ok current_at), word, if_pos rfl, bind_ok (lift_ok (advance_at more))]
  rfl

end Attempt

namespace Grammar

variable {input : ParserInput} {grammar : Grammar} {above : Precedence} {i j : Nat}

/-! ### Operators -/

section Operators

variable {s : ParserState} {x : Expr} {m : Nat}

theorem nextOperator_some {kind : TokenKind} {precedence : Precedence} {e : Expr}
    (bigQuery : input.dialect = Dialect.bigQuery)
    (found : (input.token m).kind = kind) (ordinary : kind ≠ Keyword.NOT ∧ kind ≠ Symbol.dot)
    (level : Dialect.bigQuery.precedence kind = precedence) (loose : Precedence.none ≤ above)
    (tight : above < precedence)
    (applied : grammar.applyOperator x precedence false input (s.moved m) = some (e, s.moved j)) :
    grammar.nextOperator above x input (s.moved m) = some (some e, s.moved j) := by
  rw [nextOperator, bind_eq current_at, found]
  dsimp only
  split
  · exact absurd rfl ordinary.1
  · exact absurd rfl ordinary.2
  · have present : ¬(precedence = Precedence.none ∨ precedence ≤ above) := by
      rintro (rfl | below)
      · exact Int.not_lt.2 loose tight
      · exact Int.not_lt.2 below tight
    rw [bind_eq (dialect_at bigQuery), level]
    simp only [decide_eq_true_eq, Bool.or_eq_true]
    rw [if_neg present, bind_eq applied]
    rfl

theorem binary_applies {left right : Term} {operator : BinaryOperator}
    (bigQuery : input.dialect = Dialect.bigQuery)
    (found : (input.token m).kind = operator.kind) (inside : m + 1 < input.tokens.size)
    (loose : Precedence.none ≤ above) (tight : above < operator.level) (denotes : left.Denotes x)
    (reads : Reads input (grammar.expressionAbove operator.level) right (m + 1) j) :
    ∃ e, (Term.binary left operator right).Denotes e ∧
      grammar.nextOperator above x input (s.moved m) = some (some e, s.moved j) := by
  obtain ⟨y, run, denotes'⟩ := reads s
  obtain ⟨span, spanned⟩ := spanFrom_at input s j x.span.start
  refine ⟨.binary span x operator.kind y, ⟨span, x, y, rfl, denotes, denotes'⟩, ?_⟩
  refine nextOperator_some bigQuery found (by cases operator <;> decide)
    (by cases operator <;> decide) loose tight ?_
  have applied : (do
      advance
      let right ← grammar.expressionAbove operator.level
      if right.isMissing then return x
      return .binary (← spanFrom x.span.start) x operator.kind right : Parser Expr) input (s.moved m) =
        some (.binary span x operator.kind y, s.moved j) := by
    rw [bind_eq (advance_at inside), bind_eq run, denotes'.plain.1,
      if_neg Bool.false_ne_true, bind_eq spanned]
    rfl
  rw [applyOperator, bind_eq current_at, found]
  cases operator <;> (dsimp only [BinaryOperator.kind]; rw [bind_eq (dialect_at bigQuery)]; exact applied)

theorem nextOperator_negatable {negated : Bool} {n : Nat} {keyword : Keyword} {e : Expr}
    (bigQuery : input.dialect = Dialect.bigQuery) (negation : NegationAt input negated m n)
    (found : (input.token n).kind = keyword)
    (negatable : keyword = .IN ∨ keyword = .LIKE ∨ keyword = .BETWEEN)
    (inside : n < input.tokens.size) (loose : Precedence.none ≤ above)
    (tight : above < Precedence.comparison)
    (applied : grammar.applyOperator x .comparison negated input (s.moved n) =
      some (e, s.moved j)) :
    grammar.nextOperator above x input (s.moved m) = some (some e, s.moved j) := by
  cases negated with
  | false =>
    obtain rfl : n = m := negation
    refine nextOperator_some bigQuery found ?_ ?_ loose tight applied
    · rcases negatable with rfl | rfl | rfl <;> decide
    · rcases negatable with rfl | rfl | rfl <;> decide
  | true =>
    obtain ⟨not, rfl⟩ : (input.token m).kind = Keyword.NOT ∧ n = m + 1 := negation
    have isNegated : ((input.token (m + 1)).kind == Keyword.IN ||
        (input.token (m + 1)).kind == Keyword.LIKE ||
        (input.token (m + 1)).kind == Keyword.BETWEEN) = true := by
      rw [found]
      rcases negatable with rfl | rfl | rfl <;> decide
    rw [nextOperator, bind_eq current_at, not]
    dsimp only
    rw [bind_eq lookahead_at, isNegated, decide_eq_true tight, Bool.and_true, if_pos rfl,
      bind_eq (advance_at inside), bind_eq applied]
    rfl

theorem like_applies {left pattern : Term} {negated : Bool} {n : Nat}
    (bigQuery : input.dialect = Dialect.bigQuery) (negation : NegationAt input negated m n)
    (found : (input.token n).kind = Keyword.LIKE) (inside : n + 1 < input.tokens.size)
    (loose : Precedence.none ≤ above) (tight : above < Precedence.comparison)
    (denotes : left.Denotes x)
    (reads : Reads input (grammar.expressionAbove .comparison) pattern (n + 1) j) :
    ∃ e, (Term.like left negated pattern).Denotes e ∧
      grammar.nextOperator above x input (s.moved m) = some (some e, s.moved j) := by
  obtain ⟨y, run, denotes'⟩ := reads s
  obtain ⟨span, spanned⟩ := spanFrom_at input s j x.span.start
  refine ⟨.like span x negated y, ⟨span, x, y, rfl, denotes, denotes'⟩, ?_⟩
  refine nextOperator_negatable bigQuery negation found (by decide) (by omega) loose tight ?_
  rw [applyOperator, bind_eq current_at, found]
  dsimp only
  rw [bind_eq (advance_at inside), bind_eq run, bind_eq spanned]
  rfl

theorem between_applies {left low high : Term} {negated : Bool} {n k : Nat}
    (bigQuery : input.dialect = Dialect.bigQuery) (negation : NegationAt input negated m n)
    (found : (input.token n).kind = Keyword.BETWEEN) (separates : (input.token k).kind = Keyword.AND)
    (forward : n < k) (inside : k + 1 < input.tokens.size)
    (loose : Precedence.none ≤ above) (tight : above < Precedence.comparison)
    (denotes : left.Denotes x)
    (readsLow : Reads input (grammar.expressionAbove .comparison) low (n + 1) k)
    (readsHigh : Reads input (grammar.expressionAbove .comparison) high (k + 1) j) :
    ∃ e, (Term.between left negated low high).Denotes e ∧
      grammar.nextOperator above x input (s.moved m) = some (some e, s.moved j) := by
  obtain ⟨y, runLow, denotesLow⟩ := readsLow s
  obtain ⟨z, runHigh, denotesHigh⟩ := readsHigh s
  obtain ⟨span, spanned⟩ := spanFrom_at input s j x.span.start
  refine ⟨.between span x negated y z, ⟨span, x, y, z, rfl, denotes, denotesLow, denotesHigh⟩, ?_⟩
  refine nextOperator_negatable bigQuery negation found (by decide) (by omega) loose tight ?_
  rw [applyOperator, bind_eq current_at, found]
  dsimp only
  rw [bind_eq (advance_at (by omega)), bind_eq runLow,
    bind_eq (discard_eq (expect_at inside separates)), bind_eq runHigh, bind_eq spanned]
  rfl

def ReadsAll (input : ParserInput) (read : Parser (List Expr)) (terms : Terms) (i j : Nat) : Prop :=
  ∀ s : ParserState, ∃ list, read input (s.moved i) = some (list, s.moved j) ∧ terms.Denote list

theorem isIn_applies {left : Term} {values : Terms} {negated : Bool} {n k : Nat}
    (bigQuery : input.dialect = Dialect.bigQuery) (negation : NegationAt input negated m n)
    (found : (input.token n).kind = Keyword.IN)
    (opens : (input.token (n + 1)).kind = Symbol.leftParen) (spelt : values.At input (n + 2) k)
    (closes : (input.token k).kind = Symbol.rightParen) (inside : k + 1 < input.tokens.size)
    (loose : Precedence.none ≤ above) (tight : above < Precedence.comparison)
    (denotes : left.Denotes x) (reads : ReadsAll input grammar.expressions values (n + 2) k) :
    ∃ e, (Term.isIn left negated values).Denotes e ∧
      grammar.nextOperator above x input (s.moved m) = some (some e, s.moved (k + 1)) := by
  have forward := spelt.lt
  obtain ⟨list, run, denote⟩ := reads s
  obtain ⟨span, spanned⟩ := spanFrom_at input s (k + 1) x.span.start
  refine ⟨.inValues span x negated list, ⟨span, x, list, rfl, denotes, denote⟩, ?_⟩
  refine nextOperator_negatable bigQuery negation found (by decide) (by omega) loose tight ?_
  have notUnnest : checkWord "UNNEST" input (s.moved (n + 1)) = some (false, s.moved (n + 1)) := by
    rw [checkWord, bind_eq current_at, opens]
    rfl
  rw [applyOperator, bind_eq current_at, found]
  dsimp only
  rw [bind_eq (advance_at (by omega)), membership, bind_eq notUnnest, bind_eq (checkNext_at _),
    Bool.false_and, if_neg Bool.false_ne_true, bind_eq (expect_at (by omega) opens), Bool.not_true,
    if_neg Bool.false_ne_true, bind_eq input_at, bind_eq index_at, spelt.not_startsQuery,
    if_neg Bool.false_ne_true, bind_eq run, bind_eq (discard_eq (expect_at inside closes)),
    bind_eq spanned]
  rfl

theorem isTest_applies {e : Expr} (bigQuery : input.dialect = Dialect.bigQuery)
    (found : (input.token m).kind = Keyword.IS) (inside : m + 1 < input.tokens.size)
    (loose : Precedence.none ≤ above) (tight : above < Precedence.comparison)
    (tested : grammar.isTest x input (s.moved (m + 1)) = some (e, s.moved j)) :
    grammar.nextOperator above x input (s.moved m) = some (some e, s.moved j) := by
  refine nextOperator_some bigQuery found (by decide) (by decide) loose tight ?_
  rw [applyOperator, bind_eq current_at, found]
  dsimp only
  rw [bind_eq (advance_at inside), tested]

theorem accept_negation {negated : Bool} {n : Nat} (negation : NegationAt input negated m n)
    (inside : n < input.tokens.size) (other : (input.token n).kind ≠ Keyword.NOT) :
    accept Keyword.NOT input (s.moved m) = some (negated, s.moved n) := by
  cases negated with
  | false =>
    obtain rfl : n = m := negation
    exact accept_at_other other
  | true =>
    obtain ⟨not, rfl⟩ : (input.token m).kind = Keyword.NOT ∧ n = m + 1 := negation
    exact accept_at inside not

theorem isNull_applies {left : Term} {negated : Bool} {n : Nat}
    (bigQuery : input.dialect = Dialect.bigQuery) (found : (input.token m).kind = Keyword.IS)
    (negation : NegationAt input negated (m + 1) n) (null : (input.token n).kind = Keyword.NULL)
    (inside : n + 1 < input.tokens.size) (loose : Precedence.none ≤ above)
    (tight : above < Precedence.comparison) (denotes : left.Denotes x) :
    ∃ e, (Term.isNull left negated).Denotes e ∧
      grammar.nextOperator above x input (s.moved m) = some (some e, s.moved (n + 1)) := by
  have forward := negation.le
  obtain ⟨span, spanned⟩ := spanFrom_at input s (n + 1) x.span.start
  refine ⟨.isNull span x negated, ⟨span, x, rfl, denotes⟩, ?_⟩
  refine isTest_applies bigQuery found (by omega) loose tight ?_
  rw [isTest, bind_eq (accept_negation negation (by omega) (by rw [null]; decide)),
    bind_eq current_at, null]
  dsimp only
  rw [bind_eq (advance_at inside), bind_eq spanned]
  rfl

theorem isBool_applies {left : Term} {negated value : Bool} {n : Nat}
    (bigQuery : input.dialect = Dialect.bigQuery) (found : (input.token m).kind = Keyword.IS)
    (negation : NegationAt input negated (m + 1) n)
    (truth : (input.token n).kind = truthWord value)
    (inside : n + 1 < input.tokens.size) (loose : Precedence.none ≤ above)
    (tight : above < Precedence.comparison) (denotes : left.Denotes x) :
    ∃ e, (Term.isBool left negated value).Denotes e ∧
      grammar.nextOperator above x input (s.moved m) = some (some e, s.moved (n + 1)) := by
  have forward := negation.le
  obtain ⟨span, spanned⟩ := spanFrom_at input s (n + 1) x.span.start
  refine ⟨.isBool span x negated value, ⟨span, x, rfl, denotes⟩, ?_⟩
  refine isTest_applies bigQuery found (by omega) loose tight ?_
  have other : (input.token n).kind ≠ Keyword.NOT := by rw [truth]; cases value <;> decide
  rw [isTest, bind_eq (accept_negation negation (by omega) other), bind_eq current_at, truth]
  cases value
  all_goals
    dsimp only [truthWord]
    rw [bind_eq (advance_at inside), bind_eq spanned]
    rfl

theorem field_applies {left : Term} {name : String} (dot : (input.token m).kind = Symbol.dot)
    (word : (input.token (m + 1)).isWord = true) (text : (input.token (m + 1)).text = name)
    (inside : m + 2 < input.tokens.size) (tight : above < Precedence.postfixed)
    (denotes : left.Denotes x) :
    ∃ e, (Term.field left name).Denotes e ∧
      grammar.nextOperator above x input (s.moved m) = some (some e, s.moved (m + 2)) := by
  obtain ⟨span, spanned⟩ := spanFrom_at input s (m + 2) x.span.start
  refine ⟨.field span x name, ⟨span, x, rfl, denotes⟩, ?_⟩
  have notStar : (input.token (m + 1)).kind ≠ Symbol.star := by
    intro star
    rw [Token.isWord, star] at word
    cases word
  rw [nextOperator, bind_eq current_at, dot]
  dsimp only
  have accessed : fieldAccess x input (s.moved m) = some (.field span x name, s.moved (m + 2)) := by
    rw [fieldAccess, bind_eq (advance_at (by omega)), bind_eq (accept_at_other notStar),
      if_neg Bool.false_ne_true, bind_eq (Attempt.orNote_ok (Attempt.identifier_ok inside word)), text]
    dsimp only
    rw [bind_eq spanned]
    rfl
  rw [if_pos tight, bind_eq accessed]
  rfl

theorem index_applies {left place : Term} {n : Nat} (bigQuery : input.dialect = Dialect.bigQuery)
    (opens : (input.token m).kind = Symbol.leftBracket) (forward : m + 1 < n)
    (closes : (input.token n).kind = Symbol.rightBracket) (inside : n + 1 < input.tokens.size)
    (loose : Precedence.none ≤ above) (tight : above < Precedence.postfixed)
    (denotes : left.Denotes x) (reads : Reads input grammar.expression place (m + 1) n) :
    ∃ e, (Term.index left place).Denotes e ∧
      grammar.nextOperator above x input (s.moved m) = some (some e, s.moved (n + 1)) := by
  obtain ⟨y, run, denotes'⟩ := reads s
  obtain ⟨span, spanned⟩ := spanFrom_at input s (n + 1) x.span.start
  refine ⟨.index span x y "", ⟨span, x, y, rfl, denotes, denotes'⟩, ?_⟩
  refine nextOperator_some bigQuery opens (by decide) (by decide) loose tight ?_
  have subscripted : (grammar.continuing x .subscript).run input (s.moved (m + 1)) =
      some (.ok (.index span x y ""), s.moved (n + 1)) := by
    have placed : grammar.tryExpression.run input (s.moved (m + 1)) = some (.ok y, s.moved n) :=
      Attempt.complete_ok run
    rw [continuing, subscript, Attempt.bind_ok (Attempt.within_ok placed _), denotes'.plain.2]
    dsimp only
    rw [Attempt.bind_ok (Attempt.within_ok (Attempt.expect_ok inside closes) _),
      Attempt.bind_ok (Attempt.lift_ok spanned)]
    rfl
  rw [applyOperator, bind_eq current_at, opens]
  dsimp only
  rw [bind_eq (dialect_at bigQuery)]
  change (do
    advance
    return (← (grammar.continuing x .subscript).orNote).getD x : Parser Expr) input (s.moved m) = _
  rw [bind_eq (advance_at (by omega)), bind_eq (Attempt.orNote_ok subscripted)]
  rfl

end Operators

/-! ### Lists -/

def element (grammar : Grammar) (mark : Nat) : Parser (Expr × Bool) := do
  let e ← grammar.expression
  if ← failedSince mark then return (e, false)
  return (e, ← accept Symbol.comma)

theorem element_at {s : ParserState} {e : Expr} {m : Nat} {more : Bool}
    (run : grammar.expression input (s.moved i) = some (e, s.moved m))
    (accepted : accept Symbol.comma input (s.moved m) = some (more, s.moved j)) :
    grammar.element s.errors.length input (s.moved i) = some ((e, more), s.moved j) := by
  rw [element, bind_eq run, bind_eq (failedSince_at s), if_neg Bool.false_ne_true, bind_eq accepted]
  rfl

end Grammar

end QueryLint
