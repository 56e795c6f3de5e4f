import QueryLint.Proofs.Parser.Pairing.Sources
import QueryLint.Proofs.Parser.Queries

/-!
Queries pair their parentheses. Where the query of a definition is skipped, its errors are kept as
recovered ones, so nothing is asked of what was skipped.
-/

namespace QueryLint

open QueryLint.Parser

namespace Grammar

variable {input : ParserInput} {s : ParserState} {grammar : Grammar} (paired : grammar.Paired input)
  (plain : input.Plain)

/-! ### Select items -/

section Items

include paired plain

theorem nextStarModifier_pairs : Pairs input s 0 grammar.nextStarModifier 0 := by
  refine .look rfl (.look rfl ?_)
  split
  · exact .pure
  next form found =>
    refine .look rfl (.ite (fun _ => ?_) fun _ => .pure)
    refine .advance (Dialect.unpaired_of_starForm? (plain.bigQuery ▸ found)) fun _ _ => ?_
    exact Attempt.orNote_pairs (starModifier_pairs paired form)

theorem starModifiers_pairs : Pairs input s 0 grammar.starModifiers 0 :=
  .skip fun _ _ => repeated_pairs (fun _ => nextStarModifier_pairs paired plain) _

theorem selectItem_pairs : Pairs input s 0 grammar.selectItem 0 := by
  refine .skip fun _ _ => .skip fun _ _ => .ite (fun _ => ?_) fun _ => ?_
  · exact .bind (starModifiers_pairs paired plain) fun _ _ => .flat
  · refine .bind (paired.expression _) fun _ _ => .ite (fun _ => ?_) fun _ => ?_
    · exact .bind (starModifiers_pairs paired plain) fun _ _ => .flat
    · exact .bind aliasName_pairs fun _ _ => .flat

theorem selectItems_pairs : Pairs input s 0 grammar.selectItems 0 := by
  refine .skip fun _ _ => .skip fun _ _ => chain_pairs (fun _ => ?_) _
  refine .bind (selectItem_pairs paired plain) fun _ _ => .skip fun _ _ => .ite (fun _ => .pure) fun _ => ?_
  exact .flat

end Items

theorem rowShape_pairs : Pairs input s 0 rowShape 0 := by
  refine .check (fun found => .look rfl (.ite (fun shapes => ?_) fun _ => .pure)) fun _ => .pure
  exact .advanceTwice (TokenKind.unpaired_of_eq found)
    (Token.unpaired_of_isWord (Bool.and_eq_true_iff.1 shapes).1) fun _ => .pure

/-! ### Clauses -/

include paired

theorem clauseContent_pairs (form : ClauseForm) :
    Attempt.Pairs input s 0 (grammar.clauseContent form) 0 := by
  cases form with
  | expression => exact .bind (Attempt.complete_pairs (paired.expression _)) fun _ _ => .pure
  | grouping =>
    refine .bind Attempt.expect_flat fun _ _ => ?_
    exact .bind (Attempt.complete_pairs (expressions_pairs paired)) fun _ _ => .pure
  | ordering =>
    refine .bind Attempt.expect_flat fun _ _ => ?_
    exact .bind (Attempt.complete_pairs (orderItems_pairs paired)) fun _ _ => .pure
  | windows =>
    refine .bind (Attempt.commaSeparated_pairs fun _ => ?_) fun _ _ => .pure
    exact namedWindow_pairs paired

omit paired in
/-- Behind an error that stopped a reader there is one that was noted. -/
theorem noted_of_stopped {mark : Nat} {error : SyntaxError} {t : ParserState}
    (run : when (!decide (mark < s.errors.length)) (addError error) input s = some ((), t)) :
    ¬t.Clean := by
  intro clean
  unfold when at run
  split at run
  next =>
    cases run
    exact absurd clean.errors (by simp)
  next failed =>
    cases run
    simp [clean.errors] at failed

theorem clause_pairs (mark : Nat) (block : SelectBlock) (kind : TokenKind)
    (unpaired : (input.token s.index).kind.Unpaired) :
    Pairs input s 0 (grammar.clause mark block kind) 0 := by
  refine .look rfl ?_
  split
  next form slot _ _ _ =>
    refine .look rfl (.advance unpaired fun s _ => .bindKept (clauseContent_pairs paired form) ?_ ?_)
    · rintro _ s ⟨content, rfl⟩
      exact .pure
    · rintro (error | content) s found u drops run
      · dsimp only at run
        rw [bind_eq (failedSince_eq mark)] at run
        obtain ⟨_, t, noted, ⟨⟩⟩ := bind_eq_some run
        exact noted_of_stopped noted
      · exact absurd ⟨content, rfl⟩ drops
  next => exact .flat

omit paired in
instance leftoverClause_flat : Flat leftoverClause := Flat.bind

theorem clausesFrom_pairs (mark : Nat) {rules : List ClauseRule} (block : SelectBlock)
    (unpaired : ∀ rule ∈ rules, rule.kind.Unpaired) :
    Pairs input s 0 (grammar.clausesFrom mark rules block) 0 := by
  induction rules generalizing s block with
  | nil => exact .skip fun _ _ => .pure
  | cons rule rules ih =>
    have rest := fun rule member => unpaired rule (List.mem_cons_of_mem _ member)
    refine .check (fun found => ?_) fun _ => ih block rest
    have here : (input.token s.index).kind.Unpaired := found ▸ unpaired rule List.mem_cons_self
    refine .bind (clause_pairs paired mark block rule.kind here) fun read _ => ?_
    cases read with
    | some block => exact ih block rest
    | none => exact .pure

include plain

theorem clauses_pairs (block : SelectBlock) : Pairs input s 0 (grammar.clauses block) 0 := by
  refine .skip fun _ _ => .look rfl (clausesFrom_pairs paired _ _ fun rule listed => ?_)
  rw [plain.bigQuery] at listed
  exact Dialect.unpaired_of_clause listed

/-! ### Select blocks and set operations -/

theorem selectSource_pairs : Pairs input s 0 grammar.selectSource 0 :=
  .skip fun _ _ => .ite (fun _ => .bind (fromClause_pairs paired plain) fun _ _ => .pure) fun _ => .pure

theorem selectBlock_pairs : Pairs input s 0 grammar.selectBlock 0 := by
  refine .skip fun _ _ => .skip fun _ _ => .ite (fun _ => .pure) fun _ => .skip fun _ _ => ?_
  refine .skip fun _ _ => .bind rowShape_pairs fun _ _ => .bind (selectItems_pairs paired plain) fun _ _ => ?_
  refine .bind (selectSource_pairs paired plain) fun _ _ => .bind (clauses_pairs paired plain _) fun _ _ => ?_
  exact .flat

theorem queryOperand_pairs : Pairs input s 0 grammar.queryOperand 0 := by
  refine .acceptOpen (fun _ => ?_) (.bind (selectBlock_pairs paired plain) fun _ _ => .pure)
  exact .seq (paired.query _) fun _ _ => .expectedClose fun _ => .pure

theorem readQueryBody_pairs : Pairs input s 0 grammar.readQueryBody 0 := by
  refine .skip fun _ _ => .bind (queryOperand_pairs paired plain) fun operand s => .look rfl ?_
  split
  · exact .flat
  next operator found =>
    refine .advance (Dialect.unpaired_of_meaning rfl rfl found) fun _ _ => ?_
    refine .skip fun _ _ => .skip fun _ _ => ?_
    exact .bind (paired.queryBody _) fun _ _ => .flat

/-! ### Definitions -/

omit paired plain in
theorem cteColumns_pairs : Pairs input s 0 cteColumns 0 := by
  refine .acceptOpen (fun _ => .bindWith (PairsIf.among ?_) (fun _ _ => Attempt.orNote_isSome)
    fun columns _ there => ?_) .pure
  · exact Attempt.orNote_pairs (Attempt.commaSeparated_pairs fun _ => Attempt.identifier_pairs)
  · cases columns with
    | some columns => exact .expect (fun found _ => .closes found) (fun _ => .pure) fun _ => .pure
    | none => exact .noted fun clean => nomatch there clean

omit paired plain in
theorem skipQuery_noted {opening mark : Nat} {query : Query} (failed : mark < s.errors.length)
    {answer : Option Query × Bool} {s' : ParserState}
    (run : skipQuery opening mark query input s = some (answer, s')) : ¬s'.Clean := by
  intro clean
  cases closes : input.closing? opening with
  | some closing =>
    rw [skipQuery_eq query closes] at run
    cases run
    have dropped := List.drop_eq_nil_iff.1 (List.append_eq_nil_iff.1 clean.recovered).2
    omega
  | none =>
    rw [skipQuery_eq_self query closes] at run
    cases run
    simp [clean.errors] at failed

omit plain in
theorem cteQuery_pairs : Pairs input s 0 grammar.cteQuery 0 := by
  refine .skip fun opening _ => .expect (fun found _ => .opens found) (fun s => ?_) fun _ => .pure
  refine .look rfl (.seq (paired.query _) fun query t => .look (failedSince_eq _) ?_)
  by_cases failed : s.errors.length < t.errors.length
  · rw [decide_eq_true failed]
    refine .look rfl (.look (failedSince_eq _) ?_)
    rw [if_pos (decide_eq_true failed)]
    exact .never fun _ _ => skipQuery_noted failed
  · rw [decide_eq_false failed]
    refine PairsIf.expectedClose fun u => .look (failedSince_eq _) (.ite (fun failed => ?_) fun _ => .pure)
    exact .never fun _ _ => skipQuery_noted (of_decide_eq_true failed)

omit plain in
theorem cte_pairs : Pairs input s 0 grammar.cte 0 := by
  refine .look rfl (.ite (fun _ => .failed) fun word => ?_)
  refine .advance (Token.unpaired_of_isWord (by simpa using word)) fun _ _ => ?_
  refine .bind cteColumns_pairs fun columns _ => ?_
  cases columns with
  | none => exact .pure
  | some columns =>
    refine .skip fun _ _ => .ite (fun _ => .pure) fun _ => .bind (cteQuery_pairs paired) fun read _ => ?_
    exact .ite (fun _ => .flat) fun _ => .pure

omit plain in
theorem withClause_pairs : Pairs input s 0 grammar.withClause 0 :=
  .skip fun _ _ => .expectedPlain fun _ => .skip fun _ _ =>
    .bind (commaSeparated_pairs fun _ => cte_pairs paired) fun _ _ => .flat

theorem readQuery_pairs : Pairs input s 0 grammar.readQuery 0 := by
  refine .skip fun _ _ => .bind (.skip fun _ _ => .ite (fun _ => ?_) fun _ => .pure) fun _ _ => ?_
  · exact .bind (withClause_pairs paired) fun _ _ => .pure
  · exact .bind (readQueryBody_pairs paired plain) fun _ _ => .flat

/-! ### All levels -/

theorem Paired.next : grammar.next.Paired input where
  expressionAbove above _ := readExpression_pairs paired plain above
  query _ := readQuery_pairs paired plain
  queryBody _ := readQueryBody_pairs paired plain
  present above := readExpression_present paired plain above

omit paired in
theorem level_paired (n : Nat) : (level n).Paired input := by
  induction n with
  | zero => exact ⟨fun _ _ => .exhausted, fun _ => .exhausted, fun _ => .exhausted, fun _ => .exhausted⟩
  | succ n ih => exact ih.next plain

end Grammar

end QueryLint
