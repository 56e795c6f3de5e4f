import QueryLint.Parser.Form
import QueryLint.Proofs.Parser.Pairing.Phrases

/-!
The special forms of the dialect pair their parentheses.
-/

namespace QueryLint

/-! ### What the dialect gives no meaning -/

/-- An input of the dialect whose parentheses are written as such. -/
structure ParserInput.Plain (input : ParserInput) : Prop where
  bigQuery : input.dialect = .bigQuery
  left : ∀ i, (input.token i).kind = Symbol.leftParen → (input.token i).text = "("
  right : ∀ i, (input.token i).kind = Symbol.rightParen → (input.token i).text = ")"

theorem ParserInput.Plain.unpaired_of_spells {input : ParserInput} (plain : input.Plain) {i : Nat}
    {word : String} (left : Text.sameIgnoringCase "(" word = false)
    (right : Text.sameIgnoringCase ")" word = false) (spelt : (input.token i).spells word = true) :
    (input.token i).kind.Unpaired := by
  constructor <;> intro found
  · rw [Token.spells, plain.left i found, left] at spelt
    cases spelt
  · rw [Token.spells, plain.right i found, right] at spelt
    cases spelt

namespace Dialect

variable {kind : TokenKind}

theorem unpaired_of_meaning {α : Type} {meaning : TokenKind → Option α} {a : α}
    (left : meaning Symbol.leftParen = none) (right : meaning Symbol.rightParen = none)
    (found : meaning kind = some a) : kind.Unpaired := by
  constructor <;> rintro rfl
  · exact nomatch left.symm.trans found
  · exact nomatch right.symm.trans found

theorem unpaired_of_openingForm? {form : OpeningForm} (found : bigQuery.openingForm? kind = some form) :
    kind.Unpaired :=
  unpaired_of_meaning (by decide) (by decide) found

theorem unpaired_of_starForm? {form : StarForm} (found : bigQuery.starForm? kind = some form) :
    kind.Unpaired :=
  unpaired_of_meaning (by decide) (by decide) found

theorem unpaired_of_sourceForm? {form : SourceForm} (found : bigQuery.sourceForm? kind = some form) :
    kind.Unpaired :=
  unpaired_of_meaning (by decide) (by decide) found

theorem unpaired_of_join? {rule : JoinRule} (found : bigQuery.join? kind = some rule) :
    kind.Unpaired :=
  unpaired_of_meaning (by decide) (by decide) found

theorem unpaired_of_clause {rule : ClauseRule} (listed : rule ∈ bigQuery.clauses) :
    rule.kind.Unpaired := by
  have unpaired : ∀ rule ∈ bigQuery.clauses, rule.kind ≠ Symbol.leftParen ∧
      rule.kind ≠ Symbol.rightParen := by decide
  exact ⟨(unpaired rule listed).1, (unpaired rule listed).2⟩

theorem unpaired_of_precedence (present : bigQuery.precedence kind ≠ Precedence.none) :
    kind.Unpaired := by
  constructor <;> rintro rfl <;> exact present (by decide)

end Dialect

namespace Grammar

open QueryLint.Parser QueryLint.Attempt

variable {input : ParserInput} (plain : input.Plain) {s : ParserState} {grammar : Grammar}
  (paired : grammar.Paired input)

section Forms

include paired

theorem tryExpression_pairs : Attempt.Pairs input s 0 grammar.tryExpression 0 :=
  complete_pairs (paired.expression s)

/-! ### Arrays and structures -/

theorem arrayElements_pairs : Attempt.Pairs input s 0 grammar.arrayElements 0 := by
  refine .skip fun _ _ => .bind (.ite (fun _ => .pure) fun _ => ?_) fun _ _ => ?_
  · exact commaSeparated_pairs fun _ => within_pairs (tryExpression_pairs paired) _
  · exact .bind (within_pairs expect_flat _) fun _ _ => .pure

theorem arrayLiteral_pairs (unpaired : (input.token s.index).kind.Unpaired) :
    Attempt.Pairs input s 0 grammar.arrayLiteral 0 := by
  refine .look rfl (.advance unpaired fun _ _ => ?_)
  exact .bind (arrayElements_pairs paired) fun _ _ => .skip fun _ _ => .pure

theorem array_pairs {form : OpeningForm}
    (found : input.dialect.openingForm? (input.token s.index).kind = some form)
    (unpaired : (input.token s.index).kind.Unpaired) :
    Attempt.Pairs input s 0 grammar.array 0 := by
  refine .look rfl (.look rfl ?_)
  split
  next opens =>
    refine .advance unpaired fun s' here => .advanceOpen ?_ fun s' => ?_
    · rw [here, ParserInput.token_following, opens]
    · refine .seq (within_pairs (complete_pairs (paired.query _)) _) fun _ _ => ?_
      exact .bind (within_pairs expect_close _) fun _ _ => .skip fun _ _ => .pure
  next opens =>
    refine .bind (within_pairs (complete_pairs (typeName_pairs (fun _ => .constructed found) ?_)) _)
      fun _ _ => .bind (within_pairs expect_flat _) fun _ _ => ?_
    · intro _ _ other
      rw [ParserInput.token_following, opens] at other
      exact absurd rfl other
    · exact .bind (arrayElements_pairs paired) fun _ _ => .skip fun _ _ => .pure
  next opens =>
    refine .advance unpaired fun s' here => .advance ?_ fun _ _ => ?_
    · rw [here, ParserInput.token_following, opens]
      infer_instance
    · exact .bind (arrayElements_pairs paired) fun _ _ => .skip fun _ _ => .pure
  · exact throw_pairs

theorem structField_pairs : Attempt.Pairs input s 0 grammar.structField 0 := by
  refine .bind (within_pairs (tryExpression_pairs paired) _) fun _ _ => .skip fun _ _ => ?_
  refine .ite (fun _ => ?_) fun _ => .pure
  exact .bind (within_pairs identifier_pairs _) fun _ _ => .pure

theorem struct_pairs {form : OpeningForm}
    (found : input.dialect.openingForm? (input.token s.index).kind = some form)
    (unpaired : (input.token s.index).kind.Unpaired) :
    Attempt.Pairs input s 0 grammar.struct 0 := by
  refine .look rfl (.look rfl (.seq (.ite (fun opens => ?_) fun _ => ?_) fun typeName s => ?_))
  · refine within_pairs (complete_pairs (typeName_pairs (fun _ => .constructed found) ?_)) _
    intro _ _ other
    rw [ParserInput.token_following] at other
    exact absurd (beq_iff_eq.1 opens) other
  · exact .advance unpaired fun _ _ => .pure
  · refine .bind (within_pairs expect_open _) fun _ _ => .skip fun _ _ => ?_
    refine .seq (.ite (fun _ => .pure) fun _ => ?_) fun fields s => ?_
    · exact commaSeparated_pairs fun _ => structField_pairs paired
    · exact .bind (within_pairs expect_close _) fun _ _ => .skip fun _ _ => .pure

include plain

theorem opening_pairs {form : OpeningForm}
    (found : input.dialect.openingForm? (input.token s.index).kind = some form) :
    Attempt.Pairs input s 0 (grammar.opening form) 0 := by
  have unpaired := Dialect.unpaired_of_openingForm? (plain.bigQuery ▸ found)
  cases form with
  | arrayLiteral => exact arrayLiteral_pairs paired unpaired
  | array => exact array_pairs paired found unpaired
  | struct => exact struct_pairs paired found unpaired

omit plain

/-! ### Subscripts -/

theorem subscript_pairs (operand : Expr) : Attempt.Pairs input s 0 (grammar.subscript operand) 0 := by
  refine .bind (within_pairs (tryExpression_pairs paired) _) fun _ _ => ?_
  exact .bind (within_pairs expect_flat _) fun _ _ => .skip fun _ _ => .pure

theorem continuing_pairs (operand : Expr) (form : ContinuingForm) :
    Attempt.Pairs input s 0 (grammar.continuing operand form) 0 := by
  cases form with
  | subscript => exact subscript_pairs paired operand

/-! ### Modifiers of a star -/

omit paired in
theorem exceptModifier_pairs : Attempt.Pairs input s 0 exceptModifier 0 := by
  refine within_pairs (.bind expect_open fun _ _ => .seq ?_ fun _ _ => ?_) _
  · exact commaSeparated_pairs fun _ => identifier_pairs
  · exact .bind expect_close fun _ _ => .pure

theorem replaceItem_pairs : Attempt.Pairs input s 0 grammar.replaceItem 0 := by
  refine .bind (within_pairs (tryExpression_pairs paired) _) fun _ _ => ?_
  refine .bind (within_pairs expect_flat _) fun _ _ => ?_
  exact .bind (within_pairs identifier_pairs _) fun _ _ => .pure

theorem replaceModifier_pairs : Attempt.Pairs input s 0 grammar.replaceModifier 0 := by
  refine .bind (within_pairs expect_open _) fun _ _ => .seq ?_ fun _ _ => ?_
  · exact commaSeparated_pairs fun _ => replaceItem_pairs paired
  · exact .bind (within_pairs expect_close _) fun _ _ => .pure

theorem starModifier_pairs (form : StarForm) : Attempt.Pairs input s 0 (grammar.starModifier form) 0 := by
  cases form with
  | except => exact exceptModifier_pairs
  | replace => exact replaceModifier_pairs paired

/-! ### Pivoted sources -/

omit paired in
theorem trailingAlias_pairs : Attempt.Pairs input s 0 trailingAlias 0 := by
  refine .skip fun _ _ => .ite (fun _ => identifier_pairs) fun _ => .look rfl ?_
  refine .ite (fun found => ?_) fun _ => .pure
  exact .advance (TokenKind.unpaired_of_eq (beq_iff_eq.1 found)) fun _ _ => .pure

theorem pivotAggregate_pairs : Attempt.Pairs input s 0 grammar.pivotAggregate 0 := by
  refine .bind (within_pairs (tryExpression_pairs paired) _) fun e _ => ?_
  split
  · exact .bind (within_pairs trailingAlias_pairs _) fun _ _ => .pure
  · exact throw_pairs

theorem pivotValue_pairs : Attempt.Pairs input s 0 grammar.pivotValue 0 := by
  refine .bind (within_pairs (tryExpression_pairs paired) _) fun _ _ => ?_
  exact .bind (within_pairs trailingAlias_pairs _) fun _ _ => .pure

theorem pivot_pairs (source : TableRef) : Attempt.Pairs input s 0 (grammar.pivot source) 0 := by
  refine .bind (within_pairs expect_open _) fun _ _ => .seq ?_ fun _ _ => ?_
  · exact commaSeparated_pairs fun _ => pivotAggregate_pairs paired
  refine .bind (within_pairs expect_flat _) fun _ _ => ?_
  refine .seq (within_pairs columnRef_pairs _) fun _ _ => ?_
  refine .bind (within_pairs expect_flat _) fun _ _ => ?_
  refine .bind (within_pairs expect_open _) fun _ _ => .seq ?_ fun _ _ => ?_
  · exact commaSeparated_pairs fun _ => pivotValue_pairs paired
  refine .bind (within_pairs expect_close _) fun _ _ => .bind (within_pairs expect_close _) fun _ _ => ?_
  exact .bind (within_pairs trailingAlias_pairs _) fun _ _ => .skip fun _ _ => .pure

omit paired in
theorem nullRows_pairs : Parser.Pairs input s 0 nullRows 0 := by
  refine .look rfl (.look rfl (.ite (fun both => .ite (fun _ => ?_) fun _ => .pure) fun _ => .pure))
  obtain ⟨word, nulls⟩ := Bool.and_eq_true_iff.1 both
  exact .advanceTwice (f := Pure.pure) (TokenKind.unpaired_of_eq (beq_iff_eq.1 word))
    (TokenKind.unpaired_of_eq (beq_iff_eq.1 nulls)) fun _ => .pure

omit paired in
theorem valueColumns_pairs : Attempt.Pairs input s 0 valueColumns 0 := by
  refine .acceptOpen (fun _ => .seq ?_ fun _ _ => ?_) ?_
  · exact commaSeparated_pairs fun _ => within_pairs identifier_pairs _
  · exact .bind (within_pairs expect_close _) fun _ _ => .pure
  · exact .bind (within_pairs identifier_pairs _) fun _ _ => .pure

omit paired in
theorem groupLabel_pairs : Attempt.Pairs input s 0 groupLabel 0 := by
  refine .skip fun _ _ => .ite (fun _ => .look rfl (.ite (fun found => ?_) fun _ => ?_)) fun _ => .pure
  · have unpaired : (input.token _).kind.Unpaired :=
      (Bool.or_eq_true_iff.1 found).elim (fun found => TokenKind.unpaired_of_eq (beq_iff_eq.1 found))
        fun found => TokenKind.unpaired_of_eq (beq_iff_eq.1 found)
    exact .advance unpaired fun _ _ => .pure
  · exact within_pairs identifier_pairs _

omit paired in
theorem groupColumns_pairs : Attempt.Pairs input s 0 groupColumns 0 := by
  refine .acceptOpen (fun _ => .seq ?_ fun _ _ => ?_) ?_
  · exact commaSeparated_pairs fun _ => within_pairs columnRef_pairs _
  · exact .bind (within_pairs expect_close _) fun _ _ => .pure
  · exact .bind (within_pairs columnRef_pairs _) fun _ _ => .pure

omit paired in
theorem unpivotGroup_pairs : Attempt.Pairs input s 0 unpivotGroup 0 :=
  .bind groupColumns_pairs fun _ _ => .bind groupLabel_pairs fun _ _ => .pure

omit paired in
theorem unpivot_pairs (source : TableRef) : Attempt.Pairs input s 0 (unpivot source) 0 := by
  refine .bind (.lift nullRows_pairs) fun _ _ => .bind (within_pairs expect_open _) fun _ _ => ?_
  refine .seq valueColumns_pairs fun _ _ => .bind (within_pairs expect_flat _) fun _ _ => ?_
  refine .seq (within_pairs identifier_pairs _) fun _ _ => ?_
  refine .bind (within_pairs expect_flat _) fun _ _ => ?_
  refine .bind (within_pairs expect_open _) fun _ _ => .seq ?_ fun _ _ => ?_
  · exact commaSeparated_pairs fun _ => unpivotGroup_pairs
  refine .bind (within_pairs expect_close _) fun _ _ => .bind (within_pairs expect_close _) fun _ _ => ?_
  exact .bind (within_pairs trailingAlias_pairs _) fun _ _ => .skip fun _ _ => .pure

theorem sourceForm_pairs (source : TableRef) (form : SourceForm) :
    Attempt.Pairs input s 0 (grammar.sourceForm source form) 0 := by
  cases form with
  | pivot => exact pivot_pairs paired source
  | unpivot => exact unpivot_pairs source

end Forms

end Grammar

end QueryLint
