import QueryLint.Parser.Expression
import QueryLint.Proofs.Parser.Pairing.Calls
import QueryLint.Proofs.Parser.Pairing.Forms

/-!
Expressions pair their parentheses: operands, and the operators that are applied to them.
-/

namespace QueryLint

open QueryLint.Parser

theorem TokenKind.unpaired_of_isSoft {kind : TokenKind} (soft : kind.isSoft = true) :
    kind.Unpaired := by
  constructor <;> rintro rfl <;> cases soft

theorem TokenKind.unpaired_of_isWord {kind : TokenKind} (word : kind.isWord = true) :
    kind.Unpaired := by
  constructor <;> rintro rfl <;> cases word

namespace Grammar

variable {input : ParserInput} {s : ParserState} {grammar : Grammar} (paired : grammar.Paired input)

/-! ### Operands -/

theorem unpaired_of_startsName {token next : Token} (starts : startsName token next = true) :
    token.kind.Unpaired := by
  simp only [startsName, Bool.or_eq_true, Bool.and_eq_true] at starts
  obtain ((name | soft) | word) | ⟨called | called, -⟩ := starts
  · exact TokenKind.unpaired_of_eq (beq_iff_eq.1 name)
  · exact TokenKind.unpaired_of_isSoft soft
  · exact TokenKind.unpaired_of_isWord word
  · exact TokenKind.unpaired_of_eq (beq_iff_eq.1 called)
  · exact TokenKind.unpaired_of_eq (beq_iff_eq.1 called)

include paired

theorem nameExpression_pairs (unpaired : (input.token s.index).kind.Unpaired) :
    Pairs input s 0 grammar.nameExpression 0 := by
  refine .look rfl (.bind (path_pairs fun _ => .passes unpaired) fun path s => .look rfl ?_)
  split
  next typeName typed =>
    have string : (input.token s.index).kind = .string := by
      refine Classical.byContradiction fun other => ?_
      rw [if_neg (by simpa using other)] at typed
      cases typed
    exact .advance (TokenKind.unpaired_of_eq string) fun _ _ => .flat
  next =>
    refine .skip fun _ _ => .ite (fun _ => .ite (fun _ => ?_) fun _ => ?_) fun _ => ?_
    · exact cast_pairs paired _ _
    · exact call_pairs paired _ _
    · refine .look rfl (.look rfl (.ite (fun both => ?_) fun _ => .flat))
      obtain ⟨dotted, star⟩ := Bool.and_eq_true_iff.1 both
      exact .advanceTwice (TokenKind.unpaired_of_eq (beq_iff_eq.1 dotted))
        (TokenKind.unpaired_of_eq (beq_iff_eq.1 star)) fun _ => .flat

theorem signed_pairs (operator : Token) (precedence : Precedence)
    (unpaired : (input.token s.index).kind.Unpaired) :
    Pairs input s 0 (grammar.signed operator precedence) 0 := by
  refine .advance unpaired fun _ _ => .bind (paired.expressionAbove _ _) fun _ _ => ?_
  exact .ite (fun _ => .pure) fun _ => .flat

theorem tupleField_pairs : Pairs input s 0 grammar.tupleField 0 :=
  .skip fun _ _ => .ite (fun _ => .bind (paired.expression _) fun _ _ => .pure) fun _ => .pure

theorem parenthesized_pairs (opens : (input.token s.index).kind = Symbol.leftParen) :
    Pairs input s 0 grammar.parenthesized 0 := by
  refine .look rfl (.look rfl (.look rfl (.advanceOpen opens fun _ => .ite (fun _ => ?_) fun _ => ?_)))
  · exact .seq (paired.query _) fun _ _ => .expectedClose fun _ => .flat
  · refine .bindWith (PairsIf.among (paired.expression _))
      (fun first t run clean => paired.present _ _ first t run clean) fun first t present => ?_
    refine .ite (fun missing => .noted fun clean => ?_) fun _ => .skip fun _ _ => ?_
    · rw [present clean] at missing
      cases missing
    · refine .ite (fun _ => .skip fun _ _ => ?_) fun _ => .expectedClose fun _ => .flat
      refine .seq (repeated_pairs (fun _ => tupleField_pairs paired) _) fun _ _ => ?_
      exact .expectedClose fun _ => .flat

theorem plainOperand_pairs : Pairs input s 0 (grammar.plainOperand (input.token s.index)) 0 := by
  unfold plainOperand
  split
  next found => exact .advance (TokenKind.unpaired_of_eq found) fun _ _ => .pure
  next found => exact .advance (TokenKind.unpaired_of_eq found) fun _ _ => .pure
  next found => exact .advance (TokenKind.unpaired_of_eq found) fun _ _ => .pure
  next found => exact .advance (TokenKind.unpaired_of_eq found) fun _ _ => .pure
  next found => exact .advance (TokenKind.unpaired_of_eq found) fun _ _ => .pure
  next found => exact signed_pairs paired _ _ (TokenKind.unpaired_of_eq found)
  next found => exact signed_pairs paired _ _ (found ▸ ⟨nofun, nofun⟩)
  next found => exact signed_pairs paired _ _ (found ▸ ⟨nofun, nofun⟩)
  next found => exact signed_pairs paired _ _ (TokenKind.unpaired_of_eq found)
  next found => exact parenthesized_pairs paired found
  next => exact caseDistinction_pairs paired
  next found => exact .advance (TokenKind.unpaired_of_eq found) fun _ _ => cast_pairs paired _ _
  next => exact extract_pairs paired
  next => exact interval_pairs paired
  next => exact existsQuery_pairs paired
  next found => exact .advance (TokenKind.unpaired_of_eq found) fun _ _ => .flat
  next =>
    refine .look rfl (.ite (fun starts => ?_) fun _ => .flat)
    exact nameExpression_pairs paired (unpaired_of_startsName starts)

variable (plain : input.Plain)

include plain in
theorem operand_pairs : Pairs input s 0 grammar.operand 0 := by
  refine .look rfl (.look rfl ?_)
  split
  next form found =>
    exact .bind (Attempt.orNote_pairs (opening_pairs plain paired found)) fun _ _ => .pure
  next => exact plainOperand_pairs paired

/-! ### Operators after an operand -/

theorem membership_pairs (operand : Expr) (negated : Bool) :
    Pairs input s 0 (grammar.membership operand negated) 0 := by
  refine .look rfl (.look rfl (.ite (fun both => ?_) fun _ => ?_))
  · obtain ⟨word, opens⟩ := Bool.and_eq_true_iff.1 both
    have unpaired := TokenKind.unpaired_of_eq (beq_iff_eq.1 (Bool.and_eq_true_iff.1 word).1)
    refine .advance unpaired fun s' here => .advanceOpen ?_ fun _ => ?_
    · rw [here, ParserInput.token_following]
      exact beq_iff_eq.1 opens
    · exact .seq (paired.expression _) fun _ _ => .expectedClose fun _ => .flat
  · refine .expect (fun found _ => .opens found) (fun _ => ?_) fun _ => .pure
    refine .look rfl (.look rfl (.ite (fun _ => ?_) fun _ => ?_))
    · exact .seq (paired.query _) fun _ _ => .expectedClose fun _ => .flat
    · exact .seq (expressions_pairs paired) fun _ _ => .expectedClose fun _ => .flat

theorem isTest_pairs (operand : Expr) : Pairs input s 0 (grammar.isTest operand) 0 := by
  refine .skip fun _ _ => .look rfl ?_
  split
  next found => exact .advance (TokenKind.unpaired_of_eq found) fun _ _ => .flat
  next found => exact .advance (TokenKind.unpaired_of_eq found) fun _ _ => .flat
  next found => exact .advance (TokenKind.unpaired_of_eq found) fun _ _ => .flat
  next found =>
    refine .advance (TokenKind.unpaired_of_eq found) fun _ _ => .expectedPlain fun _ => ?_
    exact .bind (paired.expressionAbove _ _) fun _ _ => .flat
  next => exact .failed

omit paired in
theorem fieldAccess_pairs (operand : Expr) (dot : (input.token s.index).kind = Symbol.dot) :
    Pairs input s 0 (fieldAccess operand) 0 := by
  refine .advance (TokenKind.unpaired_of_eq dot) fun _ _ => .skip fun _ _ => ?_
  refine .ite (fun _ => .flat) fun _ => .bind (Attempt.orNote_pairs Attempt.identifier_pairs) fun name _ => ?_
  cases name with
  | some name => exact .flat
  | none => exact .pure

theorem applyOperator_pairs (operand : Expr) (precedence : Precedence) (negated : Bool)
    (unpaired : (input.token s.index).kind.Unpaired) :
    Pairs input s 0 (grammar.applyOperator operand precedence negated) 0 := by
  refine .look rfl ?_
  split
  next => exact .advance unpaired fun _ _ => membership_pairs paired _ _
  next =>
    exact .advance unpaired fun _ _ => .bind (paired.expressionAbove _ _) fun _ _ => .flat
  next =>
    refine .advance unpaired fun _ _ => .bind (paired.expressionAbove _ _) fun _ _ => ?_
    exact .expectedPlain fun _ => .bind (paired.expressionAbove _ _) fun _ _ => .flat
  next => exact .advance unpaired fun _ _ => isTest_pairs paired _
  next =>
    refine .look rfl ?_
    split
    next form _ =>
      refine .advance unpaired fun _ _ => ?_
      exact .bind (Attempt.orNote_pairs (continuing_pairs paired _ form)) fun _ _ => .pure
    next =>
      refine .advance unpaired fun _ _ => .bind (paired.expressionAbove _ _) fun _ _ => ?_
      exact .ite (fun _ => .pure) fun _ => .flat

include plain

theorem nextOperator_pairs (above : Precedence) (operand : Expr) :
    Pairs input s 0 (grammar.nextOperator above operand) 0 := by
  refine .look rfl ?_
  dsimp only
  split
  next found =>
    refine .look rfl (.ite (fun both => ?_) fun _ => .pure)
    refine .advance (TokenKind.unpaired_of_eq found) fun s' here => ?_
    refine .bind (applyOperator_pairs paired _ _ _ ?_) fun _ _ => .pure
    rw [here, ParserInput.token_following]
    simp only [Bool.and_eq_true, Bool.or_eq_true] at both
    obtain ((found | found) | found) := both.1 <;> exact TokenKind.unpaired_of_eq (beq_iff_eq.1 found)
  next found =>
    exact .ite (fun _ => .bind (fieldAccess_pairs _ found) fun _ _ => .pure) fun _ => .pure
  next =>
    refine .look rfl (.ite (fun _ => .pure) fun binds => ?_)
    refine .bind (applyOperator_pairs paired _ _ _ (Dialect.unpaired_of_precedence ?_)) fun _ _ => .pure
    intro none
    rw [plain.bigQuery] at binds
    simp [none] at binds

theorem operators_pairs (above : Precedence) (mark bound : Nat) (operand : Expr) :
    Pairs input s 0 (grammar.operators above mark bound operand) 0 := by
  induction bound generalizing s operand with
  | zero => exact .exhausted
  | succ bound ih =>
    refine .skip fun _ _ => .ite (fun _ => .pure) fun _ => ?_
    refine .bind (nextOperator_pairs paired plain above operand) fun found _ => ?_
    cases found with
    | some applied => exact ih applied
    | none => exact .pure

theorem readExpression_pairs (above : Precedence) : Pairs input s 0 (grammar.readExpression above) 0 := by
  refine .skip fun mark _ => .bind (operand_pairs paired plain) fun operand _ => ?_
  exact .ite (fun _ => .pure) fun _ => .skip fun _ _ => operators_pairs paired plain _ _ _ _

/-! ### Expressions that were read -/

abbrev ShowsPresent (input : ParserInput) (p : Parser Expr) : Prop :=
  Shows input p fun e => e.isMissing = false

omit plain

/-- What is read on from an expression is not read on from a missing one. -/
theorem Paired.resumed {above : Precedence} {e : Expr} {rest : Expr → Parser Expr} (before after : Nat)
    (grows : ∀ first s, PairsIf (fun _ => False) input s before (rest first) after)
    (present : ∀ first, ShowsPresent input (rest first)) :
    ShowsPresent input (do
      let first ← grammar.expressionAbove above
      if first.isMissing then return e
      rest first) := by
  refine .bind before after (paired.present above)
    (fun first _ => .ite (fun _ => .dropped id) fun _ => grows first _)
    fun first there => .ite (fun missing => ?_) fun _ => present first
  rw [there] at missing
  cases missing

theorem signed_present (operator : Token) (precedence : Precedence) :
    ShowsPresent input (grammar.signed operator precedence) :=
  .seq fun _ => paired.resumed 0 0 (fun _ _ => .flat) fun _ => .seq fun _ => .pure rfl

theorem parenthesized_present : ShowsPresent input grammar.parenthesized := by
  repeat refine .seq fun _ => ?_
  refine .ite (fun _ => ?_) fun _ => ?_
  · repeat refine .seq fun _ => ?_
    exact .pure rfl
  · refine paired.resumed 1 0 (fun _ _ => .skip fun _ _ => .ite (fun _ => .skip fun _ _ => ?_) fun _ => ?_)
      fun _ => .seq fun _ => .ite (fun _ => ?_) fun _ => ?_
    · refine .seq (repeated_pairs (fun _ => tupleField_pairs paired) _) fun _ _ => ?_
      exact .expectedClose fun _ => .flat
    · exact .expectedClose fun _ => .flat
    · repeat refine .seq fun _ => ?_
      exact .pure rfl
    · exact .seq fun _ => .seq fun _ => .pure rfl

omit paired in
theorem literalOf_present (token : Token) (kind : LiteralKind) :
    (literalOf token kind).isMissing = false := rfl

omit paired in
theorem caseDistinction_present : ShowsPresent input grammar.caseDistinction := by
  repeat refine .seq fun _ => ?_
  refine .ite (fun _ => .failed) fun _ => ?_
  repeat refine .seq fun _ => ?_
  exact .pure rfl

omit paired in
theorem cast_present (start : Position) (safe : Bool) : ShowsPresent input (grammar.cast start safe) := by
  repeat refine .seq fun _ => ?_
  exact .pure rfl

omit paired in
theorem extract_present : ShowsPresent input grammar.extract := by
  repeat refine .seq fun _ => ?_
  refine .ite (fun _ => .failed) fun _ => ?_
  repeat refine .seq fun _ => ?_
  exact .pure rfl

theorem interval_present : ShowsPresent input grammar.interval := by
  refine .seq fun _ => .seq fun _ => paired.resumed 0 0 (fun _ _ => ?_) fun _ => ?_
  · refine .look rfl (.ite (fun _ => .failed) fun word => ?_)
    refine .advance (Token.unpaired_of_isWord (by simpa using word)) fun _ _ => ?_
    exact .bind lastUnit_pairs fun _ _ => .flat
  · refine .seq fun _ => .ite (fun _ => .failed) fun _ => ?_
    repeat refine .seq fun _ => ?_
    exact .pure rfl

omit paired in
theorem existsQuery_present : ShowsPresent input grammar.existsQuery := by
  repeat refine .seq fun _ => ?_
  exact .pure rfl

omit paired in
theorem call_present (start : Position) (path : List PathSegment) :
    ShowsPresent input (grammar.call start path) := by
  repeat refine .seq fun _ => ?_
  exact .pure rfl

omit paired in
theorem nameExpression_present : ShowsPresent input grammar.nameExpression := by
  refine .seq fun _ => .seq fun path => .seq fun token => ?_
  split
  · exact .seq fun _ => .seq fun _ => .pure rfl
  · refine .seq fun _ => .ite (fun _ => ?_) fun _ => ?_
    · exact .ite (fun _ => cast_present _ _) fun _ => call_present _ _
    refine .seq fun _ => .seq fun _ => .ite (fun _ => ?_) fun _ => .seq fun _ => .pure rfl
    repeat refine .seq fun _ => ?_
    exact .pure rfl

theorem plainOperand_present (token : Token) : ShowsPresent input (grammar.plainOperand token) := by
  unfold plainOperand
  split
  next => exact .seq fun _ => .pure (literalOf_present _ _)
  next => exact .seq fun _ => .pure (literalOf_present _ _)
  next => exact .seq fun _ => .pure (literalOf_present _ _)
  next => exact .seq fun _ => .pure (literalOf_present _ _)
  next => exact .seq fun _ => .pure (literalOf_present _ _)
  next => exact signed_present paired _ _
  next => exact signed_present paired _ _
  next => exact signed_present paired _ _
  next => exact signed_present paired _ _
  next => exact parenthesized_present paired
  next => exact caseDistinction_present
  next => exact .seq fun _ => cast_present _ _
  next => exact extract_present
  next => exact interval_present paired
  next => exact existsQuery_present
  next => exact .seq fun _ => .seq fun _ => .pure rfl
  next => exact .seq fun _ => .ite (fun _ => nameExpression_present) fun _ => .fault

/-! ### Special forms that were read -/

omit paired in
theorem array_present : Attempt.Shows input grammar.array fun e => e.isMissing = false := by
  refine .seq fun _ => .seq fun next => ?_
  split
  · repeat refine .seq fun _ => ?_
    exact .pure rfl
  · repeat refine .seq fun _ => ?_
    exact .pure rfl
  · repeat refine .seq fun _ => ?_
    exact .pure rfl
  · exact .throw

omit paired in
theorem opening_present (form : OpeningForm) :
    Attempt.Shows input (grammar.opening form) fun e => e.isMissing = false := by
  cases form with
  | arrayLiteral =>
    repeat refine .seq fun _ => ?_
    exact .pure rfl
  | array => exact array_present
  | struct =>
    repeat refine .seq fun _ => ?_
    exact .pure rfl

omit paired in
theorem getD_present {p : Attempt Expr} {e : Expr}
    (present : Attempt.Shows input p fun e => e.isMissing = false) :
    ShowsPresent input (do return (← p.orNote).getD e) := by
  refine Shows.bind 0 0 (Attempt.orNote_shows present) (fun _ _ => .pure) ?_
  rintro _ ⟨e, rfl, there⟩
  exact .pure there

theorem operand_present : ShowsPresent input grammar.operand := by
  refine .seq fun _ => .seq fun dialect => ?_
  split
  · exact getD_present (opening_present _)
  · exact plainOperand_present paired _

/-! ### Operators after an operand that is there -/

section Operators

variable {operand : Expr} (there : operand.isMissing = false)

omit paired in
include there in
theorem isTest_present : ShowsPresent input (grammar.isTest operand) := by
  refine .seq fun _ => .seq fun token => ?_
  split
  · exact .seq fun _ => .seq fun _ => .pure rfl
  · exact .seq fun _ => .seq fun _ => .pure rfl
  · exact .seq fun _ => .seq fun _ => .pure rfl
  · repeat refine .seq fun _ => ?_
    exact .pure rfl
  · exact .seq fun _ => .pure there

omit paired in
theorem membership_present (negated : Bool) : ShowsPresent input (grammar.membership operand negated) := by
  refine .seq fun _ => .seq fun _ => .ite (fun _ => ?_) fun _ => ?_
  · repeat refine .seq fun _ => ?_
    exact .pure rfl
  · refine .seq fun _ => .ite (fun _ => .pure rfl) fun _ => ?_
    refine .seq fun _ => .seq fun _ => .ite (fun _ => ?_) fun _ => ?_
    · repeat refine .seq fun _ => ?_
      exact .pure rfl
    · repeat refine .seq fun _ => ?_
      exact .pure rfl

omit paired in
include there in
theorem fieldAccess_present : ShowsPresent input (fieldAccess operand) := by
  refine .seq fun _ => .seq fun _ => .ite (fun _ => .seq fun _ => .pure rfl) fun _ => .seq fun name => ?_
  cases name with
  | some name => exact .seq fun _ => .pure rfl
  | none => exact .pure there

omit paired in
include there in
theorem applyOperator_present (precedence : Precedence) (negated : Bool) :
    ShowsPresent input (grammar.applyOperator operand precedence negated) := by
  refine .seq fun operator => ?_
  split
  · exact .seq fun _ => membership_present _
  · repeat refine .seq fun _ => ?_
    exact .pure rfl
  · repeat refine .seq fun _ => ?_
    exact .pure rfl
  · exact .seq fun _ => isTest_present there
  · refine .seq fun _ => ?_
    split
    next form _ =>
      cases form with
      | subscript =>
        exact .seq fun _ => getD_present (.seq fun _ => .seq fun _ => .seq fun _ => .pure rfl)
    · refine .seq fun _ => .seq fun right => .ite (fun _ => .pure there) fun _ => ?_
      exact .seq fun _ => .pure rfl

omit paired in
include there in
theorem nextOperator_present (above : Precedence) :
    Shows input (grammar.nextOperator above operand)
      fun found => ∀ e, found = some e → e.isMissing = false := by
  have applied {p : Parser Expr} (present : ShowsPresent input p) :
      Shows input (do return some (← p)) fun found => ∀ e, found = some e → e.isMissing = false :=
    Shows.bind 0 0 present (fun _ _ => .pure) fun e there =>
      .pure fun _ same => Option.some.inj same ▸ there
  refine .seq fun token => ?_
  dsimp only
  split
  · refine .seq fun _ => .ite (fun _ => ?_) fun _ => .pure nofun
    exact .seq fun _ => applied (applyOperator_present there _ _)
  · exact .ite (fun _ => applied (fieldAccess_present there)) fun _ => .pure nofun
  · exact .seq fun _ => .ite (fun _ => .pure nofun) fun _ => applied (applyOperator_present there _ _)

include plain in
include there in
theorem operators_present (above : Precedence) (mark bound : Nat) :
    ShowsPresent input (grammar.operators above mark bound operand) := by
  induction bound generalizing operand with
  | zero => exact .exhausted
  | succ bound ih =>
    refine .seq fun _ => .ite (fun _ => .pure there) fun _ => ?_
    refine .bind 0 0 (nextOperator_present there above) (fun found _ => ?_)
      fun found present => ?_
    · cases found with
      | some applied => exact (operators_pairs paired plain _ _ _ _).conditional
      | none => exact .pure
    · cases found with
      | some applied => exact ih (present applied rfl)
      | none => exact .pure there

end Operators

include plain in
theorem readExpression_present (above : Precedence) : ShowsPresent input (grammar.readExpression above) := by
  refine .seq fun mark => .bind 0 0 (operand_present paired)
    (fun operand _ => .ite (fun _ => .pure) fun _ => ?_)
    fun operand there => .ite (fun missing => ?_) fun _ => ?_
  · exact .skip fun _ _ => (operators_pairs paired plain _ _ _ _).conditional
  · rw [there] at missing
    cases missing
  · exact .seq fun _ => operators_present paired plain there _ _ _

end Grammar

end QueryLint
