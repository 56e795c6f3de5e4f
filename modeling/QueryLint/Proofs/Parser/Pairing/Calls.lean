import QueryLint.Parser.Call
import QueryLint.Proofs.Parser.Pairing.Phrases

/-!
Function calls and the constructs that look like them pair their parentheses. The word behind `HAVING`
in a call is taken without a look at it.
-/

namespace QueryLint

namespace Grammar

open QueryLint.Parser

variable {input : ParserInput} {s : ParserState} {grammar : Grammar} (paired : grammar.Paired input)

include paired

/-! ### Function calls -/

theorem callArgument_pairs : Pairs input s 0 grammar.callArgument 0 := by
  refine .look rfl (.look rfl (.seq (Pairs.when _ fun both => ?_) fun _ _ => .look rfl ?_))
  · obtain ⟨word, arrow⟩ := Bool.and_eq_true_iff.1 both
    exact .advanceTwice (f := Pure.pure) (Token.unpaired_of_isWord word)
      (TokenKind.unpaired_of_eq (beq_iff_eq.1 arrow)) fun _ => .pure
  · exact .bind (paired.expression _) fun _ _ => .flat

theorem callArguments_pairs : Pairs input s 0 grammar.callArguments 0 :=
  .skip fun _ _ => .bind (chain_pairs (fun _ => callArgument_pairs paired) _) fun _ _ => .pure

theorem callOperands_pairs (star : Bool) : Pairs input s 0 (grammar.callOperands star) 0 :=
  .skip fun _ _ => .ite (fun _ => .pure) fun _ => .skip fun _ _ =>
    .bind (callArguments_pairs paired) fun _ _ => .pure

omit paired in
theorem nullHandling_pairs : Pairs input s 0 nullHandling 0 := by
  refine .look rfl (.look rfl (.ite (fun both => .ite (fun _ => ?_) fun _ => .pure) fun _ => .pure))
  obtain ⟨word, nulls⟩ := Bool.and_eq_true_iff.1 both
  exact .advanceTwice (TokenKind.unpaired_of_eq (beq_iff_eq.1 word))
    (TokenKind.unpaired_of_eq (beq_iff_eq.1 nulls)) fun _ => .pure

theorem callRestriction_pairs (arguments : List Expr) :
    Pairs input s 0 (grammar.callRestriction arguments) 0 := by
  refine .accept (fun found _ => .passes (TokenKind.unpaired_of_eq found)) (fun found => ?_)
    fun _ => .pure
  exact .pass (fun _ _ => .skips (.extreme found)) (.bind (paired.expression _) fun _ _ => .pure)

theorem callWindow_pairs : Pairs input s 0 grammar.callWindow 0 := by
  refine .skip fun _ _ => .ite (fun _ => .skip fun _ _ => .ite (fun _ => ?_) fun _ => ?_) fun _ => .pure
  · exact .bind (windowSpec_pairs paired) fun _ _ => .pure
  · refine .look rfl (.ite (fun word => ?_) fun _ => .flat)
    exact .advance (Token.unpaired_of_isWord word) fun _ _ => .flat

theorem call_pairs (start : Position) (path : List PathSegment) :
    Pairs input s 0 (grammar.call start path) 0 := by
  refine .expectedOpen fun _ => .skip fun star _ => .seq (callOperands_pairs paired star) fun _ _ => ?_
  refine .seq nullHandling_pairs fun _ _ => .seq (callRestriction_pairs paired _) fun _ _ => ?_
  refine .seq (ordering_pairs paired) fun _ _ => .seq (expressionAfter_pairs paired _) fun _ _ => ?_
  refine .expectedClose fun _ => .bind (callWindow_pairs paired) fun _ _ => ?_
  exact .flat

/-! ### Case distinctions -/

theorem caseBranch_pairs : Pairs input s 0 grammar.caseBranch 0 := by
  refine .skip fun _ _ => .ite (fun _ => ?_) fun _ => .pure
  refine .bind (paired.expression _) fun _ _ => .expectedPlain fun _ => ?_
  exact .bind (paired.expression _) fun _ _ => .pure

theorem caseOperand_pairs : Pairs input s 0 grammar.caseOperand 0 :=
  .skip fun _ _ => .ite (fun _ => .pure) fun _ => .bind (paired.expression _) fun _ _ => .pure

theorem caseDistinction_pairs : Pairs input s 0 grammar.caseDistinction 0 := by
  refine .skip fun _ _ => .expectedPlain fun _ => .bind (caseOperand_pairs paired) fun _ _ => ?_
  refine .skip fun _ _ => .bind (repeated_pairs (fun _ => caseBranch_pairs paired) _) fun _ _ => ?_
  refine .ite (fun _ => .flat) fun _ => .bind (expressionAfter_pairs paired _) fun _ _ => ?_
  exact .expectedPlain fun _ => .flat

/-! ### Conversions and time -/

omit paired in
theorem fixedWords_pairs (words : List String) : Pairs input s 0 (fixedWords words) 0 := by
  induction words generalizing s with
  | nil => exact .pure
  | cons word words ih =>
    refine .checkWord (fun found => ?_) .failed
    exact .advance (TokenKind.unpaired_of_eq found) fun _ _ => ih

theorem timeZone_pairs : Pairs input s 0 grammar.timeZone 0 := by
  refine .checkWord (fun found => .advance (TokenKind.unpaired_of_eq found) fun _ _ => ?_) .pure
  refine .bind (fixedWords_pairs _) fun _ _ => .ite (fun _ => ?_) fun _ => .pure
  exact (paired.expression _).discard

theorem castFormat_pairs : Pairs input s 0 grammar.castFormat 0 := by
  refine .checkWord (fun found => .advance (TokenKind.unpaired_of_eq found) fun _ _ => ?_) .pure
  exact .bind (paired.expression _).discard fun _ _ => timeZone_pairs paired

theorem cast_pairs (start : Position) (safe : Bool) : Pairs input s 0 (grammar.cast start safe) 0 := by
  refine .expectedOpen fun _ => .seq (paired.expression _) fun _ s₁ => ?_
  refine .expected (fun found _ => .passes (TokenKind.unpaired_of_eq found)) fun s₂ behind => ?_
  refine .seq (typeName_pairs (fun clean => ?_) fun clean word _ => ?_) fun _ _ => ?_
  · obtain ⟨found, here⟩ := behind clean
    exact here ▸ .converted found
  · obtain ⟨found, here⟩ := behind clean
    rw [here] at word ⊢
    exact .named found word
  · exact .seq (castFormat_pairs paired) fun _ _ => .expectedClose fun _ => .flat

omit paired in
theorem datePart_pairs (word : Token) : Pairs input s 0 (datePart word) 0 := by
  refine .acceptOpen (fun _ => .look rfl ?_) .pure
  refine .bind (.ite (fun word => ?_) fun _ => .pure) fun _ _ => .expectedClose fun _ => .pure
  exact .advance (Token.unpaired_of_isWord word) fun _ _ => .pure

theorem extract_pairs : Pairs input s 0 grammar.extract 0 := by
  refine .skip fun _ _ => .expectedPlain fun _ => .expectedOpen fun _ => .look rfl ?_
  refine .ite (fun _ => .failed) fun word => .advance (Token.unpaired_of_isWord (by simpa using word))
    fun _ _ => .seq (datePart_pairs _) fun _ _ => .expectedPlain fun _ => ?_
  refine .seq (paired.expression _) fun _ _ => .seq (timeZone_pairs paired) fun _ _ => ?_
  exact .expectedClose fun _ => .flat

omit paired in
theorem lastUnit_pairs : Pairs input s 0 lastUnit 0 := by
  refine .checkWord (fun found => .advance (TokenKind.unpaired_of_eq found) fun _ _ => ?_) .pure
  refine .look rfl (.ite (fun word => ?_) fun _ => .pure)
  exact .advance (Token.unpaired_of_isWord word) fun _ _ => .pure

theorem interval_pairs : Pairs input s 0 grammar.interval 0 := by
  refine .skip fun _ _ => .expectedPlain fun _ => .seq (paired.expressionAbove _ _) fun _ _ => ?_
  refine .ite (fun _ => .pure) fun _ => .look rfl (.ite (fun _ => .failed) fun word => ?_)
  refine .advance (Token.unpaired_of_isWord (by simpa using word)) fun _ _ => ?_
  exact .bind lastUnit_pairs fun _ _ => .flat

/-! ### Queries in expressions -/

theorem existsQuery_pairs : Pairs input s 0 grammar.existsQuery 0 := by
  refine .skip fun _ _ => .expectedPlain fun _ => .expectedOpen fun _ => ?_
  exact .seq (paired.query _) fun _ _ => .expectedClose fun _ => .flat

end Grammar

end QueryLint
