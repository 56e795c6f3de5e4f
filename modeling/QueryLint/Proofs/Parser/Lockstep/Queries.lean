import QueryLint.Proofs.Parser.Lockstep.Sources
import QueryLint.Proofs.Parser.Queries

/-!
Queries are read side by side. Definitions are the one place where reading may jump: past the
parenthesis that closes the query of a definition if that query cannot be read. What is skipped was
noted as an error, so it is compared only where errors are, and there both parentheses have the same
index.
-/

namespace QueryLint

open QueryLint.Parser

/-! ### What is asked of trees -/

section Trees

variable (place : Position → Position)

theorem SelectBlock.assign_relocate (block : SelectBlock) (slot : ClauseSlot) (content : ClauseContent) :
    (block.assign slot content).relocate place =
      (block.relocate place).assign slot (Located.relocate place content) := by
  cases block
  cases slot <;> cases content <;> simp [assign, Located.relocate, SelectBlock.relocate]

theorem SelectBlock.relocate_span (block : SelectBlock) (span : Span) :
    ({ block with span } : SelectBlock).relocate place =
      { block.relocate place with span := span.relocate place } := by
  cases block
  rfl

theorem SelectBlock.relocate_orderByPosition (block : SelectBlock) (orderByPosition : Position) :
    ({ block with orderByPosition } : SelectBlock).relocate place =
      { block.relocate place with orderByPosition := place orderByPosition } := by
  cases block
  rfl

theorem Grammar.starredTable_relocate (e : Expr) : starredTable (e.relocate place) = starredTable e := by
  cases e <;> rfl

end Trees

theorem Dialect.bigQuery_clauses_medial : ∀ rule ∈ bigQuery.clauses, rule.kind.Medial := by
  have kinds : ∀ rule ∈ bigQuery.clauses,
      rule.kind ≠ .endOfInput ∧ rule.kind ≠ TokenKind.symbol .semicolon := by decide
  exact fun rule member => ⟨(kinds rule member).1, (kinds rule member).2⟩

namespace Grammar

variable {x : Excerpt} {started : Bool} {g g' : Grammar} (agrees : Agrees x g g')

include agrees

/-! ### Select items -/

theorem nextStarModifier_agrees : Parser.Agrees x true 0 g.nextStarModifier g'.nextStarModifier := by
  refine .dialect (.token (fun token span _ => ?_) fun _ token token' final final' => ?_)
  · dsimp only
    cases Dialect.bigQuery.starForm? token.kind with
    | none => exact .pure rfl
    | some form =>
      refine .checkNext _ (.advance ?_) (.pure rfl)
      exact .any (Attempt.orNote_agrees (starModifier_agrees agrees form))
  · have none : Parser.Agrees x true 0 (pure none : Parser (Option StarModifier)) (pure none) :=
      .pure rfl
    obtain ends | ends := final.kind <;> obtain ends' | ends' := final'.kind <;>
      rw [ends, ends'] <;> exact none

theorem starModifiers_agrees : Parser.Agrees x true 0 g.starModifiers g'.starModifiers :=
  .remaining fun _ _ => repeated_agrees (nextStarModifier_agrees agrees) _ _

theorem selectItem_needs : Needs x g.selectItem g'.selectItem := by
  refine .position fun start start' same => .accept _ ?_ ?_
  · refine (starModifiers_agrees agrees).bind fun modifiers modifiers' alike => ?_
    exact .spanned same fun span span' spans => by simp_all [SelectItem.relocate]
  · refine agrees.expression_needs.bind
      fun e e' (alike : e.relocate x.place = e'.relocate x.place') => ?_
    have starred : starredTable e' = starredTable e := by
      rw [← starredTable_relocate x.place' e', ← alike, starredTable_relocate]
    rw [starred]
    refine .ite ?_ ?_
    · refine (starModifiers_agrees agrees).bind fun modifiers modifiers' alike => ?_
      exact .spanned same fun span span' spans => by simp_all [SelectItem.relocate]
    · refine aliasName_agrees.bind fun (aliasName, aliasSpan) (aliasName', aliasSpan') alike' => ?_
      obtain ⟨rfl, spans⟩ : aliasName = aliasName' ∧ x.Alike aliasSpan aliasSpan' := Prod.mk.inj alike'
      exact .spanned same fun span span' spans => by simp_all [SelectItem.relocate]

theorem selectItems_agrees : Parser.Agrees x true 0 g.selectItems g'.selectItems := by
  refine .mark fun mark => .remaining fun bound bound' => chain_agrees ?_ _ _
  refine (selectItem_needs agrees).agrees.bind fun item item' alike => ?_
  have paired (more : Bool) : x.Alike (item, more) (item', more) := by
    rw [Excerpt.Alike, relocate_pair, relocate_pair, alike]
    rfl
  refine (failedSince_agrees mark).plain fun _ => .ite (.pure (paired _)) ?_
  refine .accept _ ?_ (.pure (paired _))
  exact (check_agrees _).plain fun _ => .pure (paired _)

omit agrees in
theorem rowShape_agrees : Parser.Agrees x true 0 rowShape rowShape := by
  refine .check _ (.lookahead (fun next span _ => .ite ?_ (.pure rfl)) ?_) (.pure rfl)
  · exact .advance (.advance (.pure rfl))
  · intro _ next next' final final'
    simp only [final.isWord, final'.isWord]
    exact .pure rfl

/-! ### Clauses -/

theorem clauseContent_agrees (form : ClauseForm) :
    Attempt.Agrees x true 0 (g.clauseContent form) (g'.clauseContent form) := by
  cases form with
  | expression =>
    exact Attempt.Agrees.bind (Attempt.complete_agrees agrees.expression) fun e e' alike =>
      .pure (congrArg ClauseContent.expression alike)
  | grouping =>
    refine Attempt.Agrees.plain (Attempt.expect_agrees _) fun _ => ?_
    exact Attempt.Agrees.bind (Attempt.complete_agrees agrees.expressions) fun exprs exprs' alike =>
      .pure (congrArg ClauseContent.grouping alike)
  | ordering =>
    refine Attempt.Agrees.plain (Attempt.expect_agrees _) fun _ => ?_
    exact Attempt.Agrees.bind (Attempt.complete_agrees (orderItems_agrees agrees))
      fun items items' alike => .pure (congrArg ClauseContent.ordering alike)
  | windows =>
    exact Attempt.Agrees.bind (Attempt.commaSeparated_agrees (namedWindow_agrees agrees))
      fun windows windows' alike => .pure (congrArg ClauseContent.windows alike)

omit agrees in
theorem leftoverClause_agrees : Parser.Agrees x true 0 leftoverClause leftoverClause := by
  refine .token (fun token span _ => .dialect (.ite (fault_agrees fun _ => rfl)
    (.ite (fault_agrees fun _ => rfl) (.pure rfl)))) fun _ token token' final final' => .dialect ?_
  · have nothing : Parser.Agrees x true 0 (pure () : Parser Unit) (pure ()) := .pure rfl
    obtain ends | ends := final.kind <;> obtain ends' | ends' := final'.kind <;>
      rw [ends, ends'] <;> exact nothing

theorem clause_agrees (mark : Nat) {block block' : SelectBlock}
    (same : block.relocate x.place = block'.relocate x.place') (kind : TokenKind) :
    Parser.Agrees x true 1 (g.clause mark block kind) (g'.clause mark block' kind) := by
  have unreadable : Parser.Agrees x true 1
      (do fault (.unreadableClause kind.text); return (none : Option SelectBlock))
      (do fault (.unreadableClause kind.text); return none) :=
    (fault_agrees fun _ => rfl).plain fun _ => .pure rfl
  refine .dialect ?_
  match Dialect.bigQuery.clause? kind with
  | none => exact unreadable
  | some ⟨_, none, _, _, _⟩ => exact unreadable
  | some ⟨_, some form, slot, _, _⟩ =>
    refine .position fun keyword keyword' place => .advance ?_
    refine AgreesIf.bindIf (clauseContent_agrees agrees form) (fun content content' alike => ?_)
      fun content s found t run counts _ => ?_
    · cases content with
      | error error =>
        cases content' with
        | ok => cases alike
        | error error' =>
          injection alike with alike
          refine (failedSince_agrees mark).plain fun _ => ?_
          exact (Agrees.when (addError_agrees fun _ => alike) _).plain fun _ => .pure rfl
      | ok content =>
        cases content' with
        | error => cases alike
        | ok content' =>
          injection alike with alike
          have assigned : (block.assign slot content).relocate x.place =
              (block'.assign slot content').relocate x.place' := by
            rw [SelectBlock.assign_relocate, SelectBlock.assign_relocate, same, alike]
          refine .pure (congrArg some ?_)
          split
          · change SelectBlock.relocate _ _ = SelectBlock.relocate _ _
            rw [SelectBlock.relocate_orderByPosition, SelectBlock.relocate_orderByPosition,
              assigned, place]
          · exact assigned
    · -- content that could not be read leaves an error
      cases content with
      | ok content => exact .inr ⟨content, rfl⟩
      | error error =>
        refine .inl (counts.resolve_right fun clean => ?_)
        obtain ⟨_, _, ⟨⟩, run⟩ := bind_eq_some run
        obtain ⟨_, u, noted, ⟨⟩⟩ := bind_eq_some run
        cases failed : decide (mark < s.errors.length) with
        | true =>
          rw [failed] at noted
          cases noted
          rw [clean.1] at failed
          exact absurd (of_decide_eq_true failed) (Nat.not_lt_zero _)
        | false =>
          rw [failed] at noted
          cases noted
          exact absurd clean.1 (by simp)

theorem clausesFrom_agrees (mark : Nat) (rules : List ClauseRule)
    (medial : ∀ rule ∈ rules, rule.kind.Medial)
    {block block' : SelectBlock} (same : block.relocate x.place = block'.relocate x.place') :
    Parser.Agrees x true 0 (g.clausesFrom mark rules block) (g'.clausesFrom mark rules block') := by
  induction rules generalizing block block' with
  | nil => exact leftoverClause_agrees.plain fun _ => .pure same
  | cons rule rules ih =>
    have := medial rule List.mem_cons_self
    have rest := fun rule member => medial rule (List.mem_cons_of_mem _ member)
    refine .check _ ((clause_agrees agrees mark same _).bind fun found found' alike => ?_) (ih rest same)
    cases found with
    | none =>
      cases found' with
      | none => exact .pure same
      | some => cases alike
    | some block =>
      cases found' with
      | none => cases alike
      | some block' => exact ih rest (Option.some.inj alike)

theorem clauses_agrees {block block' : SelectBlock}
    (same : block.relocate x.place = block'.relocate x.place') :
    Parser.Agrees x true 0 (g.clauses block) (g'.clauses block') :=
  .mark fun mark => .dialect (clausesFrom_agrees agrees mark _ Dialect.bigQuery_clauses_medial same)

theorem selectSource_agrees : Parser.Agrees x true 0 g.selectSource g'.selectSource := by
  refine .accept _ ?_ (.pure rfl)
  exact (fromClause_needs agrees).agrees.bind fun source source' alike => .pure (congrArg some alike)

theorem selectBlock_needs : Needs x g.selectBlock g'.selectBlock := by
  refine .position fun start start' sameStart => (expect_needs _).plain fun _ => .ite (.pure ?_) ?_
  · simp [SelectBlock.empty, SelectBlock.relocate, x.unset_span, x.unset]
  refine (accept_agrees _).plain fun distinct => ?_
  refine (Agrees.when (accept_agrees _).discard _).plain fun _ => rowShape_agrees.plain fun asKind => ?_
  refine (selectItems_agrees agrees).bind fun items items' sameItems => ?_
  refine (selectSource_agrees agrees).bind fun source source' sameSource => ?_
  refine (clauses_agrees agrees ?_).bind fun block block' alike =>
    .spanned sameStart fun span span' spans => ?_
  · simp_all [SelectBlock.empty, SelectBlock.relocate, x.unset_span, x.unset]
  · change SelectBlock.relocate _ _ = SelectBlock.relocate _ _
    rw [SelectBlock.relocate_span, SelectBlock.relocate_span, spans]
    exact congrArg (fun block : SelectBlock => { block with span := span'.relocate x.place' }) alike

/-! ### Set operations -/

theorem queryOperand_needs : Needs x g.queryOperand g'.queryOperand := by
  refine .accept _ ?_ ?_
  · refine agrees.query.agrees.bind fun query query' alike => ?_
    exact (expect_agrees _).discard.plain fun _ => .pure (congrArg Operand.nested alike)
  · exact (selectBlock_needs agrees).bind fun block block' alike =>
      .pure (congrArg Operand.block alike)

theorem readQueryBody_needs : Needs x g.readQueryBody g'.readQueryBody := by
  refine .position fun start start' same => ?_
  refine (queryOperand_needs agrees).bind fun operand operand' alike => ?_
  have single : Parser.Agrees x true 0 (do return QueryBody.single (← spanFrom start) operand)
      (do return QueryBody.single (← spanFrom start') operand') :=
    .spanned same fun span span' spans => by simp_all [QueryBody.relocate]
  refine .token (fun token span _ => ?_) fun _ token token' final final' => ?_
  · dsimp only
    cases setOperator? token.kind with
    | none => exact single.any
    | some operator =>
      refine .advance ((accept_agrees _).plain fun all => ?_)
      refine (Agrees.when (accept_agrees _).discard _).plain fun _ => ?_
      refine agrees.queryBody.agrees.bind fun right right' sameRight => ?_
      exact .spanned same fun span span' spans => by simp_all [QueryBody.relocate]
  · obtain ends | ends := final.kind <;> obtain ends' | ends' := final'.kind <;>
      rw [ends, ends'] <;> exact single

/-! ### Definitions -/

omit agrees in
theorem cteColumns_agrees : Parser.Agrees x true 0 cteColumns cteColumns := by
  refine .accept _ ?_ (.pure rfl)
  refine (Attempt.orNote_agrees (Attempt.commaSeparated_agrees Attempt.identifier_agrees)).plain
    fun names => ?_
  cases names with
  | none => exact .pure rfl
  | some names => exact (expect_agrees _).plain fun _ => .ite (.pure rfl) (.pure rfl)

section Skipping

variable {opening mark : Nat} {query query' : Query}

omit agrees in
theorem skipQuery_agrees (lax : x.lax) (alike : x.Alike query query') :
    Parser.Agrees x true 0 (skipQuery opening mark query) (skipQuery opening mark query') where
  grows _ _ _ _ _ := .inl lax
  agree s s' level was _ answer t answer' u run run' _ _ := by
    obtain ⟨unmoved, whole⟩ := x.strict lax
    have size := x.size
    have size' := x.whole whole
    have closings := x.closings lax opening
    cases closes : x.first.closing? opening with
    | none =>
      rw [closes] at closings
      rw [skipQuery_eq_self _ closes] at run
      rw [skipQuery_eq_self _ closings] at run'
      cases run
      cases run'
      refine ⟨⟨level, was rfl⟩, ?_⟩
      rw [Excerpt.Alike, relocate_pair, relocate_pair, relocate_some, relocate_some, alike]
      rfl
    | some closing =>
      rw [closes] at closings
      rw [skipQuery_eq _ closes] at run
      rw [skipQuery_eq _ closings] at run'
      cases run
      cases run'
      refine ⟨⟨⟨?_, ?_, Excerpt.take_alike level.errors mark,
        Excerpt.alike_append level.recovered (Excerpt.drop_alike level.errors mark)⟩, .inl lax⟩, rfl⟩ <;>
        simp only <;> omega

omit agrees in
/-- What is skipped is an error that was recovered from. -/
theorem skipQuery_noisy (strict : ¬x.lax) (s : ParserState) (answer : Option Query × Bool)
    (t : ParserState)
    (failed : mark < s.errors.length) (run : skipQuery opening mark query x.first s = some (answer, t)) :
    ¬x.Counts t := by
  intro counts
  obtain ⟨errors, recovered⟩ := Excerpt.counts_strict strict counts
  cases closes : x.first.closing? opening with
  | none =>
    rw [skipQuery_eq_self _ closes] at run
    cases run
    rw [errors] at failed
    exact absurd failed (Nat.not_lt_zero _)
  | some closing =>
    rw [skipQuery_eq _ closes] at run
    cases run
    have none := (List.append_eq_nil_iff.1 recovered).2
    rw [List.drop_eq_nil_iff] at none
    exact Nat.not_lt_of_le none failed

end Skipping

theorem cteQuery_agrees : Parser.Agrees x true 0 g.cteQuery g'.cteQuery := by
  refine .index fun opening opening' same => (expect_agrees _).plain fun _ => .ite (.pure rfl) ?_
  refine .mark fun mark => agrees.query.agrees.bind fun query query' alike => ?_
  refine (failedSince_agrees mark).plain fun _ => ?_
  refine (Agrees.when (expect_agrees _).discard _).plain fun _ => ?_
  refine Agrees.ifFailed mark (fun lax => ?_) skipQuery_noisy (.pure ?_)
  · rw [same lax]
    exact skipQuery_agrees lax alike
  rw [Excerpt.Alike, relocate_pair, relocate_pair, relocate_some, relocate_some, alike]
  rfl

theorem cte_needs : Needs x g.cte g'.cte := by
  refine .token (fun token span spans => .ite ?_ (.advance ?_)) fun cut token final => ?_
  · refine (unexpected_agrees _).plain fun _ => .pure ?_
    simp [Cte.relocate, x.unset_span, spans]
  · refine cteColumns_agrees.plain fun columns => ?_
    have unread (columns : List String) :
        x.Alike (Cte.mk {} token.text token.span columns none)
          ⟨{}, token.text, span, columns, none⟩ := by
      simp [Cte.relocate, x.unset_span, spans]
    cases columns with
    | none => exact .pure (unread [])
    | some columns =>
      refine (expect_agrees _).plain fun _ => .ite (.pure (unread columns)) ?_
      refine (cteQuery_agrees agrees).bind fun (query, complete) (query', complete') alike => ?_
      obtain ⟨same, rfl⟩ : x.Alike query query' ∧ complete = complete' := Prod.mk.inj alike
      refine .ite ?_ (.pure ?_)
      · refine .spanned (congrArg Span.start spans) fun whole whole' wholes => ?_
        simp_all [Cte.relocate, Token.text]
      · simp_all [Cte.relocate, Token.text, x.unset_span]
  · simp only [final.isWord]
    exact unexpected_noisy (fun lax => (x.strict lax).2 cut) _ _

theorem withClause_agrees : Parser.Agrees x started 1 g.withClause g'.withClause := by
  refine .position fun start start' same => (expect_agrees _).discard.plain fun _ => ?_
  refine (accept_agrees _).plain fun recursive => ?_
  refine (commaSeparated_agrees (cte_needs agrees).agrees).bind fun ctes ctes' alike => ?_
  exact .spanned same fun span span' spans => by simp_all [WithClause.relocate]

theorem readQuery_needs : Needs x g.readQuery g'.readQuery := by
  refine .position fun start start' same => ?_
  have body {definitions definitions' : Option WithClause} (alike : x.Alike definitions definitions') :
      Needs x
        (do
          let body ← g.readQueryBody
          return Query.mk (← spanFrom start) definitions body)
        (do
          let body ← g'.readQueryBody
          return Query.mk (← spanFrom start') definitions' body) := by
    refine (readQueryBody_needs agrees).bind fun body body' sameBody => ?_
    exact .spanned same fun span span' spans => by simp_all [Query.relocate]
  change Needs x (g.queryDefinitions >>= _) (g'.queryDefinitions >>= _)
  rw [queryDefinitions, queryDefinitions, bind_assoc, bind_assoc]
  refine .check _ ?_ (body (rfl : x.Alike (none : Option WithClause) none))
  refine AgreesIf.bind
    ((withClause_agrees agrees).bind fun clause clause' alike => .pure (congrArg some alike))
    fun definitions definitions' alike => (body alike).agrees

end Grammar

end QueryLint
