import QueryLint.Proofs.Parser.Lockstep.Names

/-!
Windows, function calls and the constructs that look like them are read side by side, given that the
productions they come back to are. What a production asks of the trees it has read does not depend on
their places.
-/

namespace QueryLint

open QueryLint.Parser

namespace Expr

variable {x : Excerpt} {e e' : Expr}

theorem isMissing_relocate (place : Position → Position) (e : Expr) :
    (e.relocate place).isMissing = e.isMissing := by
  cases e <;> rfl

theorem isMissing_eq (alike : e.relocate x.place = e'.relocate x.place') :
    e.isMissing = e'.isMissing := by
  rw [← isMissing_relocate x.place e, alike, isMissing_relocate]

end Expr

namespace Grammar

/-- Two grammars the productions of which read the same. Each of them needs a token. -/
structure Agrees (x : Excerpt) (g g' : Grammar) : Prop where
  expressionAbove : ∀ precedence, Needs x (g.expressionAbove precedence) (g'.expressionAbove precedence)
  query : Needs x g.query g'.query
  queryBody : Needs x g.queryBody g'.queryBody

variable {x : Excerpt} {started : Bool} {ahead : Nat} {g g' : Grammar} (agrees : Agrees x g g')

include agrees

theorem Agrees.expression_needs : Needs x g.expression g'.expression := agrees.expressionAbove _

theorem Agrees.expression : Parser.Agrees x started ahead g.expression g'.expression :=
  agrees.expression_needs.agrees

theorem Agrees.expressions : Parser.Agrees x true 0 g.expressions g'.expressions :=
  commaSeparated_agrees agrees.expression

theorem expressionAfter_agrees (keyword : Keyword) :
    Parser.Agrees x true 0 (g.expressionAfter keyword) (g'.expressionAfter keyword) :=
  .accept _ (agrees.expression.bind fun _ _ alike => .pure (congrArg some alike)) (.pure rfl)

theorem orderItem_agrees : Parser.Agrees x true 0 g.orderItem g'.orderItem := by
  refine agrees.expression.bind fun e e' (alike : e.relocate x.place = e'.relocate x.place') => ?_
  have item (descending : Bool) (nullsFirst : Option Bool) :
      x.Alike (OrderItem.mk e descending nullsFirst) (OrderItem.mk e' descending nullsFirst) := by
    simp [OrderItem.relocate, alike]
  refine (accept_agrees _).plain fun _ => (Agrees.when (accept_agrees _).discard _).plain fun _ => ?_
  refine .accept _ ?_ (.pure (item _ _))
  refine .accept _ (.pure (item _ _)) (.accept _ (.pure (item _ _)) ?_)
  exact (unexpected_agrees _).plain fun _ => .pure (item _ _)

theorem orderItems_agrees : Parser.Agrees x true 0 g.orderItems g'.orderItems :=
  commaSeparated_agrees (orderItem_agrees agrees)

/-! ### Windows -/

theorem frameBound_agrees : Parser.Agrees x true 0 g.frameBound g'.frameBound := by
  refine .accept _ (.accept _ (.pure rfl) ?_) (.accept _ ?_ ?_)
  · exact (expect_agrees _).discard.plain fun _ => .pure rfl
  · exact (expect_agrees _).discard.plain fun _ => .pure rfl
  · refine (agrees.expressionAbove _).agrees.bind
      fun e e' (alike : e.relocate x.place = e'.relocate x.place') => ?_
    refine .accept _ (.pure (by simp [alike])) ?_
    exact (expect_agrees _).discard.plain fun _ => .pure (by simp [alike])

omit agrees in
theorem frameUnit_agrees : Parser.Agrees x true 0 frameUnit frameUnit :=
  .accept _ (.pure rfl) (.accept _ (.pure rfl) (.accept _ (.pure rfl) (.pure rfl)))

theorem frame_agrees : Parser.Agrees x true 0 g.frame g'.frame := by
  refine frameUnit_agrees.plain fun unit => ?_
  cases unit with
  | none => exact .pure rfl
  | some unit =>
    refine .accept _ ?_ ?_
    · refine (frameBound_agrees agrees).bind fun (first, offset) (first', offset') alike => ?_
      obtain ⟨rfl, same⟩ : first = first' ∧ x.Alike offset offset' := Prod.mk.inj alike
      refine (expect_agrees _).discard.plain fun _ => ?_
      refine (frameBound_agrees agrees).bind fun (last, offset) (last', offset') alike => ?_
      obtain ⟨rfl, same'⟩ : last = last' ∧ x.Alike offset offset' := Prod.mk.inj alike
      exact .pure (by simp only [Excerpt.Alike, relocate_pair, same, same']; rfl)
    · refine (frameBound_agrees agrees).bind fun (first, offset) (first', offset') alike => ?_
      obtain ⟨rfl, same⟩ : first = first' ∧ x.Alike offset offset' := Prod.mk.inj alike
      exact .pure (by simp only [Excerpt.Alike, relocate_pair, same]; rfl)

omit agrees in
theorem windowBase_agrees : Parser.Agrees x true 0 windowBase windowBase := by
  refine .token (fun token span _ => .ite (.advance (.pure rfl)) (.pure rfl))
    fun _ token token' final final' => ?_
  rw [final.kind_beq, final'.kind_beq]
  exact .pure rfl

theorem partitioning_agrees : Parser.Agrees x true 0 g.partitioning g'.partitioning :=
  .accept _ ((expect_agrees _).discard.plain fun _ => agrees.expressions) (.pure rfl)

theorem ordering_agrees : Parser.Agrees x true 0 g.ordering g'.ordering :=
  .accept _ ((expect_agrees _).discard.plain fun _ => orderItems_agrees agrees) (.pure rfl)

theorem windowSpec_agrees : Parser.Agrees x started 1 g.windowSpec g'.windowSpec := by
  refine .position fun start start' sameStart => (expect_agrees _).plain fun found => .ite ?_ ?_
  · exact .pure (by simp [WindowSpec.relocate, x.unset_span])
  refine windowBase_agrees.plain fun name => ?_
  refine (partitioning_agrees agrees).bind fun partitionBy partitionBy' samePartition => ?_
  refine (ordering_agrees agrees).bind fun orderBy orderBy' sameOrder => ?_
  refine (frame_agrees agrees).bind fun (frame, first, last) (frame', first', last') alike => ?_
  obtain ⟨sameFrame, offsets⟩ : x.Alike frame frame' ∧ x.Alike (first, last) (first', last') :=
    Prod.mk.inj alike
  obtain rfl := Excerpt.eq_of_alike sameFrame
  obtain ⟨sameFirst, sameLast⟩ : x.Alike first first' ∧ x.Alike last last' := Prod.mk.inj offsets
  refine (expect_agrees _).discard.plain fun _ => .spanned sameStart fun span span' spans => ?_
  simp_all [WindowSpec.relocate]

omit agrees in
theorem namedBase_agrees (name : String) : Attempt.Agrees x true 0
    (do
      let start ← position
      let base ← Attempt.identifier
      return NamedWindow.mk name (windowNamed base (← spanFrom start)))
    (do
      let start ← position
      let base ← Attempt.identifier
      return NamedWindow.mk name (windowNamed base (← spanFrom start))) := by
  refine .of_ahead (Attempt.Agrees.lift (.position fun start start' same => .any ?_)) ?_
  · refine Attempt.Agrees.plain Attempt.identifier_agrees fun base => ?_
    refine .spanned same fun span span' spans => ?_
    simp [windowNamed, NamedWindow.relocate, WindowSpec.relocate, spans]
  · intro cut s result t last run counts stands
    obtain ⟨error, stops⟩ := Attempt.identifier_final (Excerpt.final_first last cut)
    rw [Attempt.run_lift_bind] at run
    obtain ⟨start, _, ⟨⟩, run⟩ := bind_eq_some run
    obtain ⟨_, _, ran, run⟩ := bind_eq_some run
    cases stops.symm.trans ran
    cases run
    exact (x.strict (stands.resolve_right nofun)).2 cut

theorem namedWindow_agrees : Attempt.Agrees x true 0 g.namedWindow g'.namedWindow := by
  refine Attempt.Agrees.plain Attempt.identifier_agrees fun name => ?_
  refine Attempt.Agrees.plain (Attempt.expect_agrees _) fun _ =>
    .lift (.check _ ?_ (namedBase_agrees name))
  exact Attempt.Agrees.bind (Attempt.complete_agrees (windowSpec_agrees agrees))
    fun spec spec' (alike : spec.relocate x.place = spec'.relocate x.place') =>
      .pure (by simp [NamedWindow.relocate, alike])

/-! ### Calls -/

theorem callArgument_agrees : Parser.Agrees x true 0 g.callArgument g'.callArgument := by
  have argument : Parser.Agrees x true 0
      (do
        let mark ← mark
        let argument ← g.expression
        if ← failedSince mark then return (none, false)
        return (some argument, ← accept Symbol.comma))
      (do
        let mark ← mark
        let argument ← g'.expression
        if ← failedSince mark then return (none, false)
        return (some argument, ← accept Symbol.comma)) := by
    refine .mark fun mark => agrees.expression.bind fun e e' alike => ?_
    refine (failedSince_agrees _).plain fun _ => .ite (.pure rfl) ?_
    refine (accept_agrees _).plain fun _ => .pure ?_
    simp only [Excerpt.Alike, relocate_pair, relocate_some, alike]
    rfl
  refine .token (fun token span _ => .checkNext _ ?_ ?_) fun _ token token' final final' => ?_
  · exact (Agrees.when (.advance advance_agrees) _).plain fun _ => argument
  · simp only [Bool.and_false]
    exact AgreesIf.plain (.pure rfl) fun _ => argument
  · simp only [final.isWord, final'.isWord, Bool.false_and]
    exact .checkNextAny _ fun _ _ => AgreesIf.plain (.pure rfl) fun _ => argument

theorem callArguments_agrees : Parser.Agrees x true 0 g.callArguments g'.callArguments := by
  refine .remaining fun bound bound' => ?_
  refine (chain_agrees (callArgument_agrees agrees) _ _).bind fun found found' alike => .pure ?_
  have kept (place : Position → Position) (found : List (Option Expr)) :
      relocate place (found.filterMap id) = (relocate place found).filterMap id := by
    simp only [relocate, List.map_filterMap, List.filterMap_map]
    rfl
  rw [Excerpt.Alike, kept, kept, alike]

theorem callOperands_agrees (star : Bool) :
    Parser.Agrees x true 0 (g.callOperands star) (g'.callOperands star) := by
  refine (check_agrees _).plain fun _ => .ite (.pure rfl) ((accept_agrees _).plain fun distinct => ?_)
  refine (callArguments_agrees agrees).bind fun arguments arguments' alike => .pure ?_
  simp only [Excerpt.Alike, relocate_pair, alike]
  rfl

omit agrees in
theorem nullHandling_agrees : Parser.Agrees x true 0 nullHandling nullHandling := by
  refine .token (fun token span _ => .checkNext _ (.ite ?_ (.pure rfl)) ?_)
    fun _ token token' final final' => .checkNextAny _ fun found found' => ?_
  · exact .ite (.advance (.advance (.pure rfl))) (.pure rfl)
  · simp only [Bool.and_false]
    exact .pure rfl
  · rw [final.kind_beq, final'.kind_beq]
    exact .pure rfl

theorem callRestriction_agrees {arguments arguments' : List Expr}
    (alike : x.Alike arguments arguments') :
    Parser.Agrees x true 0 (g.callRestriction arguments) (g'.callRestriction arguments') := by
  refine .accept _ (Needs.agrees (.advance ?_)) (.pure alike)
  refine agrees.expression_needs.bind fun e e' (same : e.relocate x.place = e'.relocate x.place') => ?_
  rw [Expr.isMissing_eq same]
  refine .pure ?_
  split
  · exact alike
  · exact Excerpt.alike_append alike (by simp [same])

theorem callWindow_agrees : Parser.Agrees x true 0 g.callWindow g'.callWindow := by
  refine .accept _ (.check _ ?_ (.token (fun token span spans => .ite ?_ ?_) ?_)) (.pure rfl)
  · exact (windowSpec_agrees agrees).bind fun spec spec' alike =>
      .pure (by simp only [Excerpt.Alike, relocate_pair, relocate_some, alike]; rfl)
  · refine .advance (.spanned (congrArg Span.start spans) fun span span' same => ?_)
    simp [windowNamed, WindowSpec.relocate, Token.text, same]
  · exact (unexpected_agrees _).plain fun _ => .pure rfl
  · intro _ token token' final final'
    simp only [final.isWord, final'.isWord]
    exact (unexpected_agrees _).plain fun _ => .pure rfl

theorem call_agrees {start start' : Position} (same : x.place start = x.place' start')
    {path path' : List PathSegment} (alike : x.Alike path path') :
    Parser.Agrees x true 0 (g.call start path) (g'.call start' path') := by
  obtain ⟨safe, others⟩ := PathSegment.splitSafe_alike alike
  unfold call
  dsimp only
  rw [safe, PathSegment.join_eq others]
  refine (expect_agrees _).discard.plain fun _ => (accept_agrees _).plain fun star => ?_
  refine (callOperands_agrees agrees star).bind
    fun (distinct, arguments) (distinct', arguments') alike => ?_
  obtain ⟨rfl, sameArguments⟩ : distinct = distinct' ∧ x.Alike arguments arguments' :=
    Prod.mk.inj alike
  refine nullHandling_agrees.plain fun nullHandling => ?_
  refine (callRestriction_agrees agrees sameArguments).bind fun arguments arguments' sameArguments => ?_
  refine (ordering_agrees agrees).bind fun orderBy orderBy' sameOrder => ?_
  refine (expressionAfter_agrees agrees _).bind fun limit limit' sameLimit => ?_
  refine (expect_agrees _).discard.plain fun _ => ?_
  refine (callWindow_agrees agrees).bind fun (window, complete) (window', complete') alike => ?_
  obtain ⟨sameWindow, rfl⟩ : x.Alike window window' ∧ complete = complete' := Prod.mk.inj alike
  refine Parser.AgreesIf.bind (.ite (spanFrom_agrees same) (.pure x.unset_span))
    fun span span' (spans : span.relocate x.place = span'.relocate x.place') => .pure ?_
  simp_all [Expr.relocate]

/-! ### Case distinctions, conversions and time -/

theorem caseBranch_agrees : Parser.Agrees x true 0 g.caseBranch g'.caseBranch := by
  refine .accept _ ?_ (.pure rfl)
  refine agrees.expression.bind fun condition condition' sameCondition => ?_
  refine (expect_agrees _).discard.plain fun _ => ?_
  refine agrees.expression.bind fun result result' sameResult => .pure ?_
  simp_all [CaseBranch.relocate]

theorem caseOperand_agrees : Parser.Agrees x true 0 g.caseOperand g'.caseOperand := by
  refine (check_agrees _).plain fun _ => .ite (.pure rfl) ?_
  exact agrees.expression.bind fun e e' alike => .pure (congrArg some alike)

theorem caseDistinction_agrees : Parser.Agrees x started 1 g.caseDistinction g'.caseDistinction := by
  refine .position fun start start' sameStart => (expect_agrees _).discard.plain fun _ => ?_
  refine (caseOperand_agrees agrees).bind fun operand operand' sameOperand => ?_
  refine .remaining fun bound bound' => ?_
  refine (repeated_agrees (caseBranch_agrees agrees) _ _).bind fun branches branches' sameBranches => ?_
  rw [Excerpt.isEmpty_eq_of_alike sameBranches]
  refine .ite ((unexpected_agrees _).plain fun _ => .pure rfl) ?_
  refine (expressionAfter_agrees agrees _).bind fun otherwise otherwise' sameOtherwise => ?_
  refine (expect_agrees _).discard.plain fun _ => .spanned sameStart fun span span' spans => ?_
  simp_all [Expr.relocate]

omit agrees in
theorem fixedWords_agrees (words : List String) :
    Parser.Agrees x true 0 (fixedWords words) (fixedWords words) := by
  induction words with
  | nil => exact .pure rfl
  | cons word words ih =>
    exact .checkWord _ (.advance ih) ((unexpected_agrees _).plain fun _ => .pure rfl)

theorem timeZone_agrees : Parser.Agrees x true 0 g.timeZone g'.timeZone := by
  refine .checkWord _ (.advance ?_) (.pure rfl)
  exact (fixedWords_agrees _).plain fun _ => .ite agrees.expression.discard (.pure rfl)

theorem castFormat_agrees : Parser.Agrees x true 0 g.castFormat g'.castFormat := by
  refine .checkWord _ (.advance ?_) (.pure rfl)
  exact agrees.expression.discard.plain fun _ => timeZone_agrees agrees

theorem cast_agrees {start start' : Position} (same : x.place start = x.place' start') (safe : Bool) :
    Parser.Agrees x true 0 (g.cast start safe) (g'.cast start' safe) := by
  refine (expect_agrees _).discard.plain fun _ => ?_
  refine agrees.expression.bind fun operand operand' alike => ?_
  refine (expect_agrees _).discard.plain fun _ => typeName_needs.agrees.plain fun typeName => ?_
  refine (castFormat_agrees agrees).plain fun _ => (expect_agrees _).discard.plain fun _ => ?_
  refine .spanned same fun span span' spans => ?_
  simp_all [Expr.relocate]

omit agrees in
theorem datePart_agrees (word : Token) (span : Span) :
    Parser.Agrees x true 0 (datePart word) (datePart { word with span }) := by
  refine .accept _ (.token (fun token span _ => ?_) fun _ token token' final final' => ?_) (.pure rfl)
  · refine AgreesIf.plain (.ite (.advance (.pure rfl)) (.pure rfl)) fun _ => ?_
    exact (expect_agrees _).discard.plain fun _ => .pure rfl
  · simp only [final.isWord, final'.isWord]
    exact AgreesIf.plain (.pure rfl) fun _ => (expect_agrees _).discard.plain fun _ => .pure rfl

theorem extract_agrees : Parser.Agrees x started 1 g.extract g'.extract := by
  refine .position fun start start' same => (expect_agrees _).discard.plain fun _ => ?_
  refine (expect_agrees _).discard.plain fun _ => .token (fun token span _ => .ite ?_ (.advance ?_)) ?_
  · exact (unexpected_agrees _).plain fun _ => .pure rfl
  · refine (datePart_agrees token span).plain fun part => ?_
    refine (expect_agrees _).discard.plain fun _ => ?_
    refine agrees.expression.bind fun operand operand' alike => ?_
    refine (timeZone_agrees agrees).plain fun _ => (expect_agrees _).discard.plain fun _ => ?_
    refine .spanned same fun span span' spans => ?_
    simp_all [Expr.relocate]
  · intro _ token token' final final'
    simp only [final.isWord, final'.isWord]
    exact (unexpected_agrees _).plain fun _ => .pure rfl

omit agrees in
theorem lastUnit_agrees : Parser.Agrees x true 0 lastUnit lastUnit := by
  refine .checkWord _ (.advance (.token (fun token span _ => ?_) ?_)) (.pure rfl)
  · exact .ite (.advance (.pure rfl)) (.pure rfl)
  · intro _ token token' final final'
    simp only [final.isWord, final'.isWord]
    exact .pure rfl

theorem interval_agrees : Parser.Agrees x started 1 g.interval g'.interval := by
  refine .position fun start start' same => (expect_agrees _).discard.plain fun _ => ?_
  refine (agrees.expressionAbove _).agrees.bind fun value value' alike => ?_
  rw [Expr.isMissing_eq alike]
  refine .ite (.pure rfl) (.token (fun token span _ => .ite ?_ (.advance ?_)) ?_)
  · exact (unexpected_agrees _).plain fun _ => .pure rfl
  · refine lastUnit_agrees.plain fun toUnit => .spanned same fun span span' spans => ?_
    simp_all [Expr.relocate, Token.text]
  · intro _ token token' final final'
    simp only [final.isWord, final'.isWord]
    exact (unexpected_agrees _).plain fun _ => .pure rfl

theorem existsQuery_agrees : Parser.Agrees x started 1 g.existsQuery g'.existsQuery := by
  refine .position fun start start' same => (expect_agrees _).discard.plain fun _ => ?_
  refine (expect_agrees _).discard.plain fun _ => agrees.query.agrees.bind fun query query' alike => ?_
  refine (expect_agrees _).discard.plain fun _ => .spanned same fun span span' spans => ?_
  simp_all [Expr.relocate]

end Grammar

end QueryLint
