import QueryLint.Proofs.Parser.Lockstep.Calls

/-!
The special forms of a dialect are read side by side. They stop at the first error, so nothing is said
of them where errors are not compared and one of them stops.
-/

namespace QueryLint

open QueryLint.Parser

namespace Expr

variable {x : Excerpt} {e e' : Expr}

def isCall : Expr → Bool
  | .call .. => true
  | _ => false

theorem isCall_relocate (place : Position → Position) (e : Expr) :
    (e.relocate place).isCall = e.isCall := by
  cases e <;> rfl

theorem isCall_eq_false (other : ∀ head arguments orderBy limit window,
    e = .call head arguments orderBy limit window → False) : e.isCall = false := by
  cases e with
  | call => exact (other _ _ _ _ _ rfl).elim
  | _ => rfl

theorem isCall_eq (alike : e.relocate x.place = e'.relocate x.place') : e.isCall = e'.isCall := by
  rw [← isCall_relocate x.place e, alike, isCall_relocate]

theorem span_relocate (place : Position → Position) (e : Expr) :
    (e.relocate place).span = if e.isMissing then {} else e.span.relocate place := by
  cases e <;> rfl

theorem span_eq_of_isMissing (missing : e.isMissing = true) : e.span = {} := by
  cases e with
  | missing => rfl
  | _ => cases missing

theorem span_alike (alike : e.relocate x.place = e'.relocate x.place') : x.Alike e.span e'.span := by
  have missing := isMissing_eq alike
  have spans := congrArg Expr.span alike
  rw [span_relocate, span_relocate, missing] at spans
  cases found : e'.isMissing with
  | true =>
    rw [span_eq_of_isMissing found, span_eq_of_isMissing (missing.trans found)]
    exact x.unset_span
  | false =>
    rw [found] at spans
    exact spans

end Expr

theorem TableRef.span_alike {x : Excerpt} {source source' : TableRef}
    (alike : source.relocate x.place = source'.relocate x.place') :
    x.Alike source.span source'.span := by
  cases source <;> cases source' <;> simp only [TableRef.relocate, reduceCtorEq] at alike
  case missing.missing => exact x.unset_span
  case table.table => exact congrArg TableName.span (TableRef.table.inj alike)
  all_goals injection alike with spans

namespace Grammar

theorem subscriptMode_relocate (place : Position → Position) (e : Expr) :
    subscriptMode (e.relocate place) = ((subscriptMode e).1, (subscriptMode e).2.relocate place) := by
  cases e with
  | call head arguments orderBy limit window =>
    match arguments with
    | [] => rfl
    | [argument] =>
      have name : (relocate place head).name = head.name := rfl
      have safe : (relocate place head).safe = head.safe := rfl
      simp only [Expr.relocate, Expr.relocateList, subscriptMode, name, safe]
      split <;> rfl
    | _ :: _ :: _ => rfl
  | _ => rfl

theorem subscriptMode_alike {x : Excerpt} {e e' : Expr}
    (alike : e.relocate x.place = e'.relocate x.place') :
    (subscriptMode e).1 = (subscriptMode e').1 ∧ x.Alike (subscriptMode e).2 (subscriptMode e').2 := by
  have same := congrArg subscriptMode alike
  rw [subscriptMode_relocate, subscriptMode_relocate] at same
  exact Prod.mk.inj same

variable {x : Excerpt} {started : Bool} {ahead : Nat} {g g' : Grammar} (agrees : Agrees x g g')

include agrees

theorem tryExpression_agrees : Attempt.Agrees x started ahead g.tryExpression g'.tryExpression :=
  Attempt.complete_agrees agrees.expression

/-! ### Arrays and structures -/

theorem arrayElements_agrees : Attempt.Agrees x true 0 g.arrayElements g'.arrayElements := by
  have element : Attempt.Agrees x true 0 (Attempt.within "array literal" g.tryExpression)
      (Attempt.within "array literal" g'.tryExpression) :=
    Attempt.within_agrees (tryExpression_agrees agrees) _
  refine .lift ((check_agrees _).plain fun found => ?_)
  refine Attempt.Agrees.bind (.ite (.pure rfl) (Attempt.commaSeparated_agrees element))
    fun elements elements' alike => ?_
  exact Attempt.Agrees.plain (Attempt.expectWithin_agrees _ _) fun _ => .pure alike

theorem arrayLiteral_agrees : Attempt.Agrees x started 1 g.arrayLiteral g'.arrayLiteral := by
  refine .lift (.position fun start start' same => Attempt.Agrees.lift (.advance ?_))
  refine Attempt.Agrees.bind (arrayElements_agrees agrees) fun elements elements' alike => ?_
  refine .spanned same fun span span' spans => ?_
  simp_all [Expr.relocate]

theorem array_agrees : Attempt.Agrees x started 1 g.array g'.array := by
  refine .lift (.position fun start start' same => Attempt.Agrees.lift
    (.lookahead (fun token span spans => ?_) fun cut token token' final final' => ?_))
  · have elements (typeName : String) : Attempt.Agrees x true 0
        (do
          let elements ← g.arrayElements
          return Expr.array (← spanFrom start) typeName elements)
        (do
          let elements ← g'.arrayElements
          return Expr.array (← spanFrom start') typeName elements) :=
      Attempt.Agrees.bind (arrayElements_agrees agrees) fun elements elements' alike =>
        .spanned same fun span span' spans => by simp_all [Expr.relocate]
    have malformed : Attempt.Agrees x started 2 (throw (.malformedArray token.span.start) : Attempt Expr)
        (throw (.malformedArray span.start)) :=
      Attempt.throw_agrees fun _ => congrArg SyntaxError.malformedArray (congrArg Span.start spans)
    obtain ⟨kind, _, _, _⟩ := token
    cases kind with
    | symbol symbol =>
      cases symbol with
      | leftParen =>
        refine Attempt.Agrees.lift (.advance (Attempt.Agrees.lift (.advance ?_)))
        refine Attempt.Agrees.bind
          (Attempt.within_agrees (Attempt.complete_agrees agrees.query.agrees) _)
          fun query query' alike => ?_
        refine Attempt.Agrees.plain (Attempt.expectWithin_agrees _ _) fun _ => ?_
        exact .spanned same fun span span' spans => by simp_all [Expr.relocate]
      | less =>
        refine Attempt.Agrees.plain
          (Attempt.within_agrees (Attempt.complete_agrees typeName_needs.agrees) _)
          fun _ => ?_
        exact Attempt.Agrees.plain (Attempt.expectWithin_agrees _ _) fun _ => elements _
      | leftBracket => exact Attempt.Agrees.lift (.advance (Attempt.Agrees.lift (.advance (elements ""))))
      | _ => exact malformed
    | _ => exact malformed
  · obtain ends | ends := final.kind <;> obtain ends' | ends' := final'.kind <;>
      simp only [ends, ends'] <;>
      exact Attempt.throw_agrees fun lax => absurd cut (x.strict lax).2

theorem structField_agrees : Attempt.Agrees x true 0 g.structField g'.structField := by
  refine Attempt.Agrees.bind (Attempt.within_agrees (tryExpression_agrees agrees) _)
    fun e e' (alike : e.relocate x.place = e'.relocate x.place') => Attempt.Agrees.lift (.accept _ ?_ ?_)
  · refine Attempt.Agrees.plain (Attempt.within_agrees Attempt.identifier_agrees _) fun _ => ?_
    exact .pure (by simp [NamedExpr.relocate, alike])
  · exact Attempt.Agrees.pure (by simp [NamedExpr.relocate, alike])

theorem struct_agrees : Attempt.Agrees x started 1 g.struct g'.struct := by
  have fields {start start' : Position} (same : x.place start = x.place' start') (typeName : String) :
      Attempt.Agrees x true 0
        (do
          Attempt.within "STRUCT" (Attempt.expect Symbol.leftParen)
          let fields ← (if ← check Symbol.rightParen then pure []
            else Attempt.commaSeparated g.structField)
          Attempt.within "STRUCT: expected )" (Attempt.expect Symbol.rightParen)
          return Expr.struct (← spanFrom start) typeName fields)
        (do
          Attempt.within "STRUCT" (Attempt.expect Symbol.leftParen)
          let fields ← (if ← check Symbol.rightParen then pure []
            else Attempt.commaSeparated g'.structField)
          Attempt.within "STRUCT: expected )" (Attempt.expect Symbol.rightParen)
          return Expr.struct (← spanFrom start') typeName fields) := by
    refine Attempt.Agrees.plain (Attempt.expectWithin_agrees _ _) fun _ => ?_
    refine .lift ((check_agrees _).plain fun found => ?_)
    refine Attempt.Agrees.bind (.ite (.pure rfl) (Attempt.commaSeparated_agrees
      (structField_agrees agrees))) fun fields fields' alike => ?_
    refine Attempt.Agrees.plain (Attempt.expectWithin_agrees _ _) fun _ => ?_
    refine .spanned same fun span span' spans => ?_
    simp_all [Expr.relocate]
  refine .lift (.position fun start start' same => Attempt.Agrees.lift (.checkNext _ ?_ ?_))
  · exact Attempt.Agrees.plain (Attempt.within_agrees (Attempt.complete_agrees typeName_needs.agrees) _)
      fun typeName => fields same typeName
  · exact Attempt.Agrees.plain (Attempt.Agrees.lift (.advance (Attempt.Agrees.pure rfl)))
      fun typeName => fields same typeName

theorem opening_agrees (form : OpeningForm) :
    Attempt.Agrees x started 1 (g.opening form) (g'.opening form) := by
  cases form with
  | arrayLiteral => exact arrayLiteral_agrees agrees
  | array => exact array_agrees agrees
  | struct => exact struct_agrees agrees

theorem subscript_agrees {operand operand' : Expr}
    (same : operand.relocate x.place = operand'.relocate x.place') :
    Attempt.Agrees x true 0 (g.subscript operand) (g'.subscript operand') := by
  refine Attempt.Agrees.bind (Attempt.within_agrees (tryExpression_agrees agrees) _)
    fun e e' (alike : e.relocate x.place = e'.relocate x.place') => ?_
  obtain ⟨mode, index⟩ := subscriptMode_alike alike
  generalize subscriptMode e = found at mode index
  generalize subscriptMode e' = found' at mode index
  refine Attempt.Agrees.plain (Attempt.expectWithin_agrees _ _) fun _ => ?_
  refine .spanned (congrArg Span.start (Expr.span_alike same)) fun span span' spans => ?_
  simp_all [Expr.relocate]

theorem continuing_agrees {operand operand' : Expr}
    (same : operand.relocate x.place = operand'.relocate x.place') (form : ContinuingForm) :
    Attempt.Agrees x true 0 (g.continuing operand form) (g'.continuing operand' form) := by
  cases form with
  | subscript => exact subscript_agrees agrees same

/-! ### Modifiers of a star -/

omit agrees in
theorem exceptModifier_agrees : Attempt.Agrees x true 0 exceptModifier exceptModifier := by
  refine Attempt.within_agrees (Attempt.Agrees.plain (Attempt.expect_agrees _) fun _ => ?_) _
  refine Attempt.Agrees.plain (Attempt.commaSeparated_agrees Attempt.identifier_agrees) fun columns => ?_
  exact Attempt.Agrees.plain (Attempt.expect_agrees _) fun _ => .pure rfl

theorem replaceItem_agrees : Attempt.Agrees x true 0 g.replaceItem g'.replaceItem := by
  refine Attempt.Agrees.bind (Attempt.within_agrees (tryExpression_agrees agrees) _)
    fun e e' (alike : e.relocate x.place = e'.relocate x.place') => ?_
  refine Attempt.Agrees.plain (Attempt.expectWithin_agrees _ _) fun _ => ?_
  refine Attempt.Agrees.plain (Attempt.within_agrees Attempt.identifier_agrees _) fun _ => ?_
  exact .pure (by simp [NamedExpr.relocate, alike])

theorem replaceModifier_agrees : Attempt.Agrees x true 0 g.replaceModifier g'.replaceModifier := by
  refine Attempt.Agrees.plain (Attempt.expectWithin_agrees _ _) fun _ => ?_
  refine Attempt.Agrees.bind (Attempt.commaSeparated_agrees (replaceItem_agrees agrees))
    fun items items' alike => ?_
  refine Attempt.Agrees.plain (Attempt.expectWithin_agrees _ _) fun _ => .pure ?_
  simp_all [StarModifier.relocate]

theorem starModifier_agrees (form : StarForm) :
    Attempt.Agrees x true 0 (g.starModifier form) (g'.starModifier form) := by
  cases form with
  | except => exact exceptModifier_agrees
  | replace => exact replaceModifier_agrees agrees

/-! ### Pivoted sources -/

omit agrees in
theorem trailingAlias_agrees : Attempt.Agrees x true 0 trailingAlias trailingAlias := by
  refine .lift (.accept _ Attempt.identifier_agrees ?_)
  refine Attempt.Agrees.lift (.token (fun token span _ => ?_) fun _ token token' final final' => ?_)
  · exact .ite (Attempt.Agrees.lift (.advance (Attempt.Agrees.pure rfl))) (Attempt.Agrees.pure rfl)
  · rw [final.kind_beq, final'.kind_beq]
    exact Attempt.Agrees.pure rfl

theorem pivotAggregate_agrees : Attempt.Agrees x true 0 g.pivotAggregate g'.pivotAggregate := by
  refine Attempt.Agrees.bind (Attempt.within_agrees (tryExpression_agrees agrees) _)
    fun e e' (alike : e.relocate x.place = e'.relocate x.place') => ?_
  have named : Attempt.Agrees x true 0
      (do return NamedExpr.mk e (← Attempt.within "PIVOT aggregate alias" trailingAlias))
      (do return NamedExpr.mk e' (← Attempt.within "PIVOT aggregate alias" trailingAlias)) :=
    Attempt.Agrees.plain (Attempt.within_agrees trailingAlias_agrees _) fun _ =>
      .pure (by simp [NamedExpr.relocate, alike])
  have same := Expr.isCall_eq alike
  split
  · split
    · exact named
    next other =>
      rw [Expr.isCall_eq_false other] at same
      cases same
  next other =>
    rw [Expr.isCall_eq_false other] at same
    split
    · cases same
    · exact Attempt.throw_agrees fun _ =>
        congrArg SyntaxError.pivotWithoutCall (congrArg Span.start (Expr.span_alike alike))

theorem pivotValue_agrees : Attempt.Agrees x true 0 g.pivotValue g'.pivotValue := by
  refine Attempt.Agrees.bind (Attempt.within_agrees (tryExpression_agrees agrees) _)
    fun e e' (alike : e.relocate x.place = e'.relocate x.place') => ?_
  refine Attempt.Agrees.plain (Attempt.within_agrees trailingAlias_agrees _) fun _ => ?_
  exact .pure (by simp [NamedExpr.relocate, alike])

theorem pivot_agrees {source source' : TableRef}
    (same : source.relocate x.place = source'.relocate x.place') :
    Attempt.Agrees x true 0 (g.pivot source) (g'.pivot source') := by
  refine Attempt.Agrees.plain (Attempt.expectWithin_agrees _ _) fun _ => ?_
  refine Attempt.Agrees.bind (Attempt.commaSeparated_agrees (pivotAggregate_agrees agrees))
    fun aggregates aggregates' sameAggregates => ?_
  refine Attempt.Agrees.plain (Attempt.expectWithin_agrees _ _) fun _ => ?_
  refine Attempt.Agrees.bind (Attempt.within_agrees Attempt.columnRef_agrees _)
    fun column column' sameColumn => ?_
  refine Attempt.Agrees.plain (Attempt.expectWithin_agrees _ _) fun _ => ?_
  refine Attempt.Agrees.plain (Attempt.expectWithin_agrees _ _) fun _ => ?_
  refine Attempt.Agrees.bind (Attempt.commaSeparated_agrees (pivotValue_agrees agrees))
    fun values values' sameValues => ?_
  refine Attempt.Agrees.plain (Attempt.expectWithin_agrees _ _) fun _ => ?_
  refine Attempt.Agrees.plain (Attempt.expectWithin_agrees _ _) fun _ => ?_
  refine Attempt.Agrees.plain (Attempt.within_agrees trailingAlias_agrees _) fun aliasName => ?_
  refine .spanned (congrArg Span.start (TableRef.span_alike same)) fun span span' spans => ?_
  simp_all [TableRef.relocate]

omit agrees in
theorem nullRows_agrees : Parser.Agrees x true 0 nullRows nullRows := by
  refine .token (fun token span _ => .checkNext _ (.ite (.ite ?_ (.pure rfl)) (.pure rfl)) ?_)
    fun _ token token' final final' => .checkNextAny _ fun found found' => ?_
  · exact .advance advance_agrees
  · simp only [Bool.and_false]
    exact .pure rfl
  · rw [final.kind_beq, final'.kind_beq]
    exact .pure rfl

omit agrees in
theorem valueColumns_agrees : Attempt.Agrees x true 0 valueColumns valueColumns := by
  refine .lift (.accept _ ?_ ?_)
  · refine Attempt.Agrees.plain (Attempt.commaSeparated_agrees
      (Attempt.within_agrees Attempt.identifier_agrees _)) fun names => ?_
    exact Attempt.Agrees.plain (Attempt.expectWithin_agrees _ _) fun _ => .pure rfl
  · exact Attempt.Agrees.plain (Attempt.within_agrees Attempt.identifier_agrees _) fun _ => .pure rfl

omit agrees in
theorem groupLabel_agrees : Attempt.Agrees x true 0 groupLabel groupLabel := by
  refine .lift (.accept _ ?_ (Attempt.Agrees.pure rfl))
  refine Attempt.Agrees.lift (.token (fun token span _ => ?_) fun _ token token' final final' => ?_)
  · refine .ite (Attempt.Agrees.lift (.advance (Attempt.Agrees.pure rfl))) ?_
    exact .any (Attempt.within_agrees Attempt.identifier_agrees _)
  · rw [final.kind_beq, final.kind_beq, final'.kind_beq, final'.kind_beq]
    exact Attempt.within_agrees Attempt.identifier_agrees _

omit agrees in
theorem groupColumns_agrees : Attempt.Agrees x true 0 groupColumns groupColumns := by
  refine .lift (.accept _ ?_ ?_)
  · refine Attempt.Agrees.bind (Attempt.commaSeparated_agrees
      (Attempt.within_agrees Attempt.columnRef_agrees _)) fun columns columns' alike => ?_
    exact Attempt.Agrees.plain (Attempt.expectWithin_agrees _ _) fun _ => .pure alike
  · refine Attempt.Agrees.bind (Attempt.within_agrees Attempt.columnRef_agrees _)
      fun column column' alike => ?_
    exact .pure (by rw [Excerpt.Alike, relocate_cons, relocate_cons, alike]; rfl)

omit agrees in
theorem unpivotGroup_agrees : Attempt.Agrees x true 0 unpivotGroup unpivotGroup := by
  refine Attempt.Agrees.bind groupColumns_agrees fun columns columns' alike => ?_
  refine Attempt.Agrees.plain groupLabel_agrees fun _ => ?_
  exact .pure (congrArg (UnpivotGroup.mk · _) alike)

omit agrees in
theorem unpivot_agrees {source source' : TableRef}
    (same : source.relocate x.place = source'.relocate x.place') :
    Attempt.Agrees x true 0 (unpivot source) (unpivot source') := by
  refine .lift (nullRows_agrees.plain fun _ => ?_)
  refine Attempt.Agrees.plain (Attempt.expectWithin_agrees _ _) fun _ => ?_
  refine Attempt.Agrees.plain valueColumns_agrees fun names => ?_
  refine Attempt.Agrees.plain (Attempt.expectWithin_agrees _ _) fun _ => ?_
  refine Attempt.Agrees.plain (Attempt.within_agrees Attempt.identifier_agrees _) fun nameColumn => ?_
  refine Attempt.Agrees.plain (Attempt.expectWithin_agrees _ _) fun _ => ?_
  refine Attempt.Agrees.plain (Attempt.expectWithin_agrees _ _) fun _ => ?_
  refine Attempt.Agrees.bind (Attempt.commaSeparated_agrees unpivotGroup_agrees)
    fun groups groups' alike => ?_
  refine Attempt.Agrees.plain (Attempt.expectWithin_agrees _ _) fun _ => ?_
  refine Attempt.Agrees.plain (Attempt.expectWithin_agrees _ _) fun _ => ?_
  refine Attempt.Agrees.plain (Attempt.within_agrees trailingAlias_agrees _) fun aliasName => ?_
  refine .spanned (congrArg Span.start (TableRef.span_alike same)) fun span span' spans => ?_
  simp_all [TableRef.relocate]

theorem sourceForm_agrees {source source' : TableRef}
    (same : source.relocate x.place = source'.relocate x.place') (form : SourceForm) :
    Attempt.Agrees x true 0 (g.sourceForm source form) (g'.sourceForm source' form) := by
  cases form with
  | pivot => exact pivot_agrees agrees same
  | unpivot => exact unpivot_agrees same

end Grammar

end QueryLint
