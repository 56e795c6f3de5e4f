import QueryLint.Proofs.Parser.Lockstep.Forms

/-!
Expressions are read side by side, given that the productions they come back to are. An operand needs
a token; an operator after it is found in both readings or in none.
-/

namespace QueryLint

open QueryLint.Parser

namespace Grammar

theorem literalType?_relocate (place : Position → Position) (path : List PathSegment) :
    literalType? (relocate place path) = literalType? path := by
  match path with
  | [] => rfl
  | [_] => rfl
  | _ :: _ :: _ => rfl

theorem isSafeCast_relocate (place : Position → Position) (path : List PathSegment) :
    isSafeCast (relocate place path) = isSafeCast path := by
  match path with
  | [] => rfl
  | [_] => rfl
  | _ :: _ :: _ => rfl

/-- Whether a token begins a name depends on the next one only if that is a parenthesis. -/
theorem startsName_final (token : Token) {next next' : Token} (final : next.Final)
    (final' : next'.Final) :
    startsName token next = startsName token next' := by
  rw [startsName, startsName, final.kind_beq, final'.kind_beq]

theorem Final.startsName_eq_false {token : Token} (final : token.Final) (next : Token) :
    startsName token next = false := by
  obtain ends | ends := final.kind <;> simp [startsName, ends, TokenKind.isSoft, TokenKind.isWord]

variable {x : Excerpt} {started : Bool} {ahead : Nat} {g g' : Grammar} (agrees : Agrees x g g')

include agrees

/-! ### Operands -/

theorem nameExpression_agrees : Parser.Agrees x started 1 g.nameExpression g'.nameExpression := by
  refine .position fun start start' same => path_agrees.bind fun path path' alike => ?_
  have isType : literalType? path' = literalType? path := by
    rw [← literalType?_relocate x.place' path', ← alike, literalType?_relocate]
  have isCast : isSafeCast path' = isSafeCast path := by
    rw [← isSafeCast_relocate x.place' path', ← alike, isSafeCast_relocate]
  have column : Parser.Agrees x true 0
      (do return Expr.column (PathSegment.columnRef path (← spanFrom start)))
      (do return Expr.column (PathSegment.columnRef path' (← spanFrom start'))) :=
    .spanned same fun span span' spans =>
      congrArg Expr.column (PathSegment.columnRef_alike alike spans)
  have other : Parser.Agrees x true 0
      (do
        if ← check Symbol.leftParen then
          if isSafeCast path then return ← g.cast start true
          return ← g.call start path
        let dotted ← check Symbol.dot
        if dotted && (← checkNext Symbol.star) then
          advance
          advance
          return .star (← spanFrom start) (PathSegment.join path)
        return .column (PathSegment.columnRef path (← spanFrom start)))
      (do
        if ← check Symbol.leftParen then
          if isSafeCast path' then return ← g'.cast start' true
          return ← g'.call start' path'
        let dotted ← check Symbol.dot
        if dotted && (← checkNext Symbol.star) then
          advance
          advance
          return .star (← spanFrom start') (PathSegment.join path')
        return .column (PathSegment.columnRef path' (← spanFrom start'))) := by
    rw [isCast, PathSegment.join_eq alike]
    refine .check _ ?_ (.check _ (.checkNext _ ?_ column.any) (.checkNextAny _ fun _ _ => column))
    · simp only [↓reduceIte]
      exact .any (.ite (cast_agrees agrees same _) (call_agrees agrees same alike))
    · refine .advance (.advance (.spanned same fun span span' spans => ?_))
      simp [Expr.relocate, spans]
  refine .token (fun token span _ => ?_) fun _ token token' final final' => ?_
  · rw [isType]
    dsimp only
    generalize (if token.kind == .string then literalType? path else none) = typed
    cases typed with
    | some typeName =>
      refine .advance (.spanned same fun span span' spans => ?_)
      simp [Expr.relocate, Token.text, spans]
    | none => exact other.any
  · rw [final.kind_beq, final'.kind_beq]
    exact other

theorem signed_agrees (operator : Token) {span : Span}
    (spans : operator.span.relocate x.place = span.relocate x.place') (precedence : Precedence) :
    Parser.Agrees x started 1 (g.signed operator precedence)
      (g'.signed { operator with span } precedence) := by
  refine .advance ((agrees.expressionAbove _).agrees.bind fun operand operand' alike => ?_)
  rw [Expr.isMissing_eq alike]
  refine .ite (.pure rfl) (.spanned (congrArg Span.start spans) fun span span' spans => ?_)
  simp_all [Expr.relocate]

theorem tupleField_agrees : Parser.Agrees x true 0 g.tupleField g'.tupleField := by
  refine .accept _ ?_ (.pure rfl)
  exact agrees.expression.bind fun e e' alike => .pure (by simp_all [NamedExpr.relocate])

theorem parenthesized_agrees : Parser.Agrees x started 1 g.parenthesized g'.parenthesized := by
  refine .position fun start start' same => .startsQueryNext fun input index input' index' queries => ?_
  dsimp only
  rw [queries]
  refine .advance (.ite ?_ ?_)
  · refine agrees.query.agrees.bind fun query query' alike => ?_
    refine (expect_agrees _).discard.plain fun _ => .spanned same fun span span' spans => ?_
    simp_all [Expr.relocate]
  · refine agrees.expression.bind fun first first' alike => ?_
    rw [Expr.isMissing_eq alike]
    refine .ite (.pure rfl) ((check_agrees _).plain fun _ => .ite ?_ ?_)
    · refine .remaining fun bound bound' => ?_
      refine (repeated_agrees (tupleField_agrees agrees) _ _).bind fun others others' alike' => ?_
      refine (expect_agrees _).discard.plain fun _ => .spanned same fun span span' spans => ?_
      simp_all [Expr.relocate, NamedExpr.relocateList, NamedExpr.relocate]
    · refine (expect_agrees _).discard.plain fun _ => .spanned same fun span span' spans => ?_
      simp_all [Expr.relocate]

theorem plainOperand_agrees (token : Token) {span : Span}
    (spans : token.span.relocate x.place = span.relocate x.place') :
    Parser.Agrees x started 1 (g.plainOperand token) (g'.plainOperand { token with span }) := by
  have constant (kind : LiteralKind) : Parser.Agrees x started 1
      (do advance; return literalOf token kind)
      (do advance; return literalOf { token with span } kind) :=
    .advance (.pure (by simp [Expr.relocate, literalOf, Token.text, spans]))
  have signed (precedence : Precedence) : Parser.Agrees x started 1 (g.signed token precedence)
      (g'.signed { token with span } precedence) := signed_agrees agrees token spans precedence
  have named : Parser.Agrees x started 1
      (do
        if startsName token (← lookahead) then g.nameExpression
        else
          fault (.unexpectedInput token)
          return .missing)
      (do
        if startsName { token with span } (← lookahead) then g'.nameExpression
        else
          fault (.unexpectedInput { token with span })
          return .missing) := by
    have missing (ahead : Nat) : Parser.Agrees x started ahead
        (do fault (.unexpectedInput token); return Expr.missing)
        (do fault (.unexpectedInput { token with span }); return Expr.missing) :=
      (fault_agrees fun _ => congrArg
        (fun span => SyntaxFault.unexpectedInput { token with span }) spans).plain fun _ => .pure rfl
    refine .lookahead (fun next span' _ => ?_) fun _ next next' final final' => ?_
    · exact .ite ((nameExpression_agrees agrees).weaken id (Nat.le_succ 1)) (missing 2)
    · rw [startsName_final token final final']
      exact .ite (nameExpression_agrees agrees) (missing 1)
  obtain ⟨kind, literal, tokenSpan, quoted⟩ := token
  cases kind with
  | number => exact constant .number
  | string => exact constant .string
  | keyword keyword =>
    cases keyword with
    | TRUE | FALSE => exact constant .bool
    | NULL => exact constant .null
    | NOT => exact signed _
    | CASE => exact caseDistinction_agrees agrees
    | CAST => exact .advance (cast_agrees agrees (congrArg Span.start spans) _)
    | EXTRACT => exact extract_agrees agrees
    | INTERVAL => exact interval_agrees agrees
    | EXISTS => exact existsQuery_agrees agrees
    | _ => exact named
  | symbol symbol =>
    cases symbol with
    | minus | plus | tilde => exact signed _
    | leftParen => exact parenthesized_agrees agrees
    | star =>
      refine .advance (.spanned (congrArg Span.start spans) fun span span' spans => ?_)
      simp [Expr.relocate, spans]
    | _ => exact named
  | _ => exact named

omit agrees in
theorem plainOperand_final (strict : ¬x.lax) {token : Token} (final : token.Final) :
    Noisy x (g.plainOperand token) := by
  have named : Noisy x
      (do
        if startsName token (← lookahead) then g.nameExpression
        else
          fault (.unexpectedInput token)
          return .missing) := by
    intro s e t run
    rw [bind_eq rfl, Final.startsName_eq_false final] at run
    exact fault_noisy strict _ _ s e t run
  obtain ⟨kind, literal, span, quoted⟩ := token
  obtain rfl | rfl := final.kind <;> exact named

theorem operand_needs : Needs x g.operand g'.operand := by
  refine .token (fun token span spans => .dialect ?_) fun cut token final s e t run => ?_
  · dsimp only
    cases Dialect.bigQuery.openingForm? token.kind with
    | none => exact plainOperand_agrees agrees token spans
    | some form =>
      refine (Attempt.orNote_agrees (opening_agrees agrees form)).bind
        fun found found' alike => .pure ?_
      cases found <;> cases found' <;> first | rfl | cases alike | exact Option.some.inj alike
  · have absent : Dialect.bigQuery.openingForm? token.kind = none := by
      obtain ends | ends := final.kind <;> rw [ends] <;> rfl
    rw [bind_eq (dialect_eq x.dialect), absent] at run
    exact plainOperand_final (fun lax => (x.strict lax).2 cut) final s e t run

/-! ### Operators -/

section Operators

variable {operand operand' : Expr} (same : operand.relocate x.place = operand'.relocate x.place')

include same

theorem membership_agrees (negated : Bool) :
    Parser.Agrees x true 0 (g.membership operand negated) (g'.membership operand' negated) := by
  have start := congrArg Span.start (Expr.span_alike same)
  let listed (g : Grammar) (operand : Expr) : Parser Expr := do
    if !(← expect Symbol.leftParen) then return .inValues {} operand negated []
    if (← input).startsQuery (← index) then
      let query ← g.query
      discard <| expect Symbol.rightParen
      return .inQuery (← spanFrom operand.span.start) operand negated query
    else
      let values ← g.expressions
      discard <| expect Symbol.rightParen
      return .inValues (← spanFrom operand.span.start) operand negated values
  have values : Parser.Agrees x true 0 (listed g operand) (listed g' operand') := by
    refine (expect_agrees _).plain fun _ => .ite (.pure ?_) ?_
    · simp [Expr.relocate, same, x.unset_span]
    refine .startsQuery fun input index input' index' queries => ?_
    rw [queries]
    refine .ite ?_ ?_
    · refine agrees.query.agrees.bind fun query query' alike => ?_
      refine (expect_agrees _).discard.plain fun _ => .spanned start fun span span' spans => ?_
      simp_all [Expr.relocate]
    · refine agrees.expressions.bind fun values values' alike => ?_
      refine (expect_agrees _).discard.plain fun _ => .spanned start fun span span' spans => ?_
      simp_all [Expr.relocate]
  refine .checkWord _ (.checkNext _ ?_ values.any) (.checkNextAny _ fun _ _ => values)
  refine .advance (.advance (agrees.expression.bind fun array array' alike => ?_))
  refine (expect_agrees _).discard.plain fun _ => .spanned start fun span span' spans => ?_
  simp_all [Expr.relocate]

theorem isTest_agrees : Parser.Agrees x true 0 (g.isTest operand) (g'.isTest operand') := by
  have start := congrArg Span.start (Expr.span_alike same)
  have other (ahead : Nat) : Parser.Agrees x true ahead
      (do unexpected "NULL, TRUE, FALSE or DISTINCT"; return operand)
      (do unexpected "NULL, TRUE, FALSE or DISTINCT"; return operand') :=
    (unexpected_agrees _).plain fun _ => .pure same
  refine (accept_agrees _).plain fun negated => .token (fun token span _ => ?_)
    fun _ token token' final final' => ?_
  · obtain ⟨kind, _, _, _⟩ := token
    cases kind with
    | keyword keyword =>
      cases keyword with
      | NULL | TRUE | FALSE =>
        exact .advance (.spanned start fun span span' spans => by simp [Expr.relocate, same, spans])
      | DISTINCT =>
        refine .advance ((expect_agrees _).discard.plain fun _ => ?_)
        refine (agrees.expressionAbove _).agrees.bind fun right right' alike => ?_
        refine .spanned start fun span span' spans => ?_
        simp_all [Expr.relocate]
      | _ => exact other _
    | _ => exact other _
  · obtain ends | ends := final.kind <;> obtain ends' | ends' := final'.kind <;>
      simp only [ends, ends'] <;> exact other _

omit agrees in
theorem fieldAccess_agrees : Parser.Agrees x true 1 (fieldAccess operand) (fieldAccess operand') := by
  have start := congrArg Span.start (Expr.span_alike same)
  refine .advance (.accept _ ?_ ?_)
  · exact .spanned start fun span span' spans => by simp [Expr.relocate, spans]
  · refine (Attempt.orNote_agrees Attempt.identifier_agrees).plain fun name => ?_
    cases name with
    | some name => exact .spanned start fun span span' spans => by simp [Expr.relocate, same, spans]
    | none => exact .pure same

theorem applyOperator_agrees (precedence : Precedence) (negated : Bool) :
    Parser.Agrees x true 1 (g.applyOperator operand precedence negated)
      (g'.applyOperator operand' precedence negated) := by
  have start := congrArg Span.start (Expr.span_alike same)
  refine .here fun token span _ => ?_
  have others : Parser.Agrees x true 1 (g.otherOperator operand precedence token.kind)
      (g'.otherOperator operand' precedence token.kind) := by
    unfold Grammar.otherOperator
    refine .dialect ?_
    cases Dialect.bigQuery.continuingForm? token.kind with
    | some form =>
      refine .advance ?_
      refine (Attempt.orNote_agrees (continuing_agrees agrees same form)).bind
        fun found found' alike => .pure ?_
      cases found <;> cases found' <;> first | exact same | cases alike | exact Option.some.inj alike
    | none =>
      refine .advance ((agrees.expressionAbove _).agrees.bind fun right right' alike => ?_)
      rw [Expr.isMissing_eq alike]
      refine .ite (.pure same) (.spanned start fun span span' spans => ?_)
      simp_all [Expr.relocate]
  obtain ⟨kind, literal, tokenSpan, quoted⟩ := token
  cases kind with
  | keyword keyword =>
    cases keyword with
    | IN => exact .advance (membership_agrees agrees same negated)
    | LIKE =>
      refine .advance ((agrees.expressionAbove _).agrees.bind fun pattern pattern' alike => ?_)
      refine .spanned start fun span span' spans => ?_
      simp_all [Expr.relocate]
    | BETWEEN =>
      refine .advance ((agrees.expressionAbove _).agrees.bind fun low low' sameLow => ?_)
      refine (expect_agrees _).discard.plain fun _ => ?_
      refine (agrees.expressionAbove _).agrees.bind fun high high' sameHigh => ?_
      refine .spanned start fun span span' spans => ?_
      simp_all [Expr.relocate]
    | IS => exact .advance (isTest_agrees agrees same)
    | _ => exact others
  | _ => exact others

theorem nextOperator_agrees (above : Precedence) :
    Parser.Agrees x true 0 (g.nextOperator above operand) (g'.nextOperator above operand') := by
  let other (g : Grammar) (operand : Expr) (kind : TokenKind) : Parser (Option Expr) := do
    let precedence := (← dialect).precedence kind
    if precedence = Precedence.none || precedence ≤ above then return none
    else return some (← g.applyOperator operand precedence false)
  have applied (precedence : Precedence) (negated : Bool) : Parser.Agrees x true 1
      (do return some (← g.applyOperator operand precedence negated))
      (do return some (← g'.applyOperator operand' precedence negated)) :=
    (applyOperator_agrees agrees same _ _).bind fun e e' alike => .pure (congrArg some alike)
  refine .token (fun token span _ => ?_) fun _ token token' final final' => ?_
  · have others : Parser.Agrees x true 1 (other g operand token.kind) (other g' operand' token.kind) :=
      .dialect (.ite (.pure rfl) (applied _ _))
    obtain ⟨kind, literal, tokenSpan, quoted⟩ := token
    cases kind with
    | keyword keyword =>
      cases keyword with
      | NOT =>
        refine .lookahead (fun next span' _ => .ite ?_ (.pure rfl)) fun _ next next' final final' => ?_
        · exact .advance (applied _ _)
        · simp only [final.kind_beq, final'.kind_beq, Bool.or_self, Bool.false_and]
          exact .pure rfl
      | _ => exact others
    | symbol symbol =>
      cases symbol with
      | dot =>
        refine .ite ?_ (.pure rfl)
        exact (fieldAccess_agrees same).bind fun e e' alike => .pure (congrArg some alike)
      | _ => exact others
    | _ => exact others
  · have none : Parser.Agrees x true 0 (pure none : Parser (Option Expr)) (pure none) := .pure rfl
    obtain ends | ends := final.kind <;> obtain ends' | ends' := final'.kind <;>
      simp only [ends, ends'] <;> exact .dialect none

theorem operators_agrees (above : Precedence) (mark bound bound' : Nat) :
    Parser.Agrees x true 0 (g.operators above mark bound operand)
      (g'.operators above mark bound' operand') := by
  induction bound generalizing bound' operand operand' with
  | zero => exact exhausted_agrees
  | succ bound ih =>
    have steps (bound' : Nat) : Parser.Agrees x true 0 (g.operators above mark (bound + 1) operand)
        (g'.operators above mark (bound' + 1) operand') := by
      refine (failedSince_agrees _).plain fun _ => .ite (.pure same) ?_
      refine (nextOperator_agrees agrees same above).bind fun found found' alike => ?_
      cases found with
      | none =>
        cases found' with
        | none => exact .pure same
        | some => cases alike
      | some applied =>
        cases found' with
        | none => cases alike
        | some applied' => exact ih (Option.some.inj alike) bound'
    cases bound' with
    | zero => exact (steps 0).exhausted
    | succ bound' => exact steps bound'

end Operators

theorem readExpression_needs (above : Precedence) :
    Needs x (g.readExpression above) (g'.readExpression above) := by
  refine .mark fun mark => (operand_needs agrees).bind fun operand operand' alike => ?_
  rw [Expr.isMissing_eq alike]
  exact .ite (.pure alike) (.remaining fun _ _ => operators_agrees agrees alike above mark _ _)

end Grammar

end QueryLint
