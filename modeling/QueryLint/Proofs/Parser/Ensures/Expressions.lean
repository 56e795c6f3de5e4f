import QueryLint.Parser.Expression
import QueryLint.Proofs.Parser.Ensures.Calls
import QueryLint.Proofs.Parser.Ensures.Forms

/-!
What operands and operators ensure. An operand that has been read goes into what its operators make of
it, or it is what is left when an operator fails.
-/

namespace QueryLint

namespace Grammar

open QueryLint.Parser

variable {allowed : SyntaxError → Prop} {named : TableName → Prop} {input : ParserInput}
  {grammar : Grammar} (known : grammar.Regular allowed named input)

include known

/-! ### Operands -/

theorem nameExpression_ensures :
    Ensures allowed input grammar.nameExpression fun e => Flawless named e.present := by
  refine .skip fun start => .skip fun path => .skip fun token => ?_
  split
  · exact .skip fun _ => .skip fun span => .pure (.expr .nil)
  refine .branch (.ite (fun _ => ?_) fun _ => ?_) (.skip fun dotted => .skip fun _ => ?_)
  · exact cast_ensures known start true
  · exact call_ensures known start path
  · refine .ite (fun _ => .skip fun _ => .skip fun _ => .skip fun span => .pure ?_) fun _ => ?_
    · exact .expr .nil
    · exact .skip fun span => .pure (.expr .nil)

theorem signed_ensures (operator : Token) (precedence : Precedence) :
    Ensures allowed input (grammar.signed operator precedence) fun e => Flawless named e.present := by
  refine .skip fun _ => (known.expressionAbove _).bind fun operand holds => ?_
  exact .ite (fun _ => .pure .nil) fun _ => .skip fun span => .pure (.expr holds)

theorem tupleField_ensures :
    Ensures allowed input grammar.tupleField fun found => ∀ field ∈ found,
      Flawless named field.expr.present := by
  refine .branch (known.expression.bind fun e holds => .pure fun _ same => ?_) (.pure nofun)
  exact Option.some.inj same ▸ holds

theorem parenthesized_ensures :
    Ensures allowed input grammar.parenthesized fun e => Flawless named e.present := by
  refine .skip fun start => .skip fun _ => .skip fun _ => .skip fun _ => .ite (fun _ => ?_) fun _ => ?_
  · refine known.query.bind fun query holds => ?_
    refine (expect_ensures known.admits _).discard.seq fun _ => .skip fun span => .pure ?_
    exact .expr holds
  refine known.expression.bind fun first before => .ite (fun _ => .pure .nil) fun _ => ?_
  refine .branch (.skip fun _ => ?_) ?_
  · refine (repeated_ensures (tupleField_ensures known) _).bind fun others each => ?_
    refine (expect_ensures known.admits _).discard.seq fun _ => .skip fun span => .pure ?_
    exact .expr (.flatMap (List.forall_mem_cons.2 ⟨before, each⟩))
  · refine (expect_ensures known.admits _).discard.seq fun _ => .skip fun span => .pure ?_
    exact .expr before

theorem plainOperand_ensures (token : Token) :
    Ensures allowed input (grammar.plainOperand token) fun e => Flawless named e.present := by
  have literal (kind : LiteralKind) : Ensures allowed input
      (do advance; return literalOf token kind) fun e => Flawless named e.present :=
    .skip fun _ => .pure (.expr .nil)
  unfold plainOperand
  split
  · exact literal .number
  · exact literal .string
  · exact literal .bool
  · exact literal .bool
  · exact literal .null
  · exact signed_ensures known token _
  · exact signed_ensures known token _
  · exact signed_ensures known token _
  · exact signed_ensures known token _
  · exact parenthesized_ensures known
  · exact caseDistinction_ensures known
  · exact .skip fun _ => cast_ensures known _ false
  · exact extract_ensures known
  · exact interval_ensures known
  · exact existsQuery_ensures known
  · exact .skip fun _ => .skip fun span => .pure (.expr .nil)
  · refine .skip fun next => .ite (fun _ => nameExpression_ensures known) fun _ => ?_
    exact (fault_ensures known.admits _).seq fun _ => .pure .nil

theorem operand_ensures :
    Ensures allowed input grammar.operand fun e => Flawless named e.present := by
  refine .skip fun token => .skip fun dialect => ?_
  split
  · next form _ =>
    refine (Attempt.orNote_ensures (opening_ensures known form)).bind fun found holds => .pure ?_
    cases found with
    | none => exact .nil
    | some e => exact holds e rfl
  · exact plainOperand_ensures known token

/-! ### Operators after an operand -/

theorem membership_ensures {operand : Expr} (before : Flawless named operand.present) (negated : Bool) :
    Ensures allowed input (grammar.membership operand negated) fun e => Flawless named e.present := by
  refine .skip fun unnest => .skip fun _ => .ite (fun _ => ?_) fun _ => ?_
  · refine .skip fun _ => .skip fun _ => known.expression.bind fun array after => ?_
    refine (expect_ensures known.admits _).discard.seq fun _ => .skip fun span => .pure ?_
    exact .expr (before.append after)
  refine (expect_ensures known.admits _).seq fun _ => .ite (fun _ => ?_) fun _ => ?_
  · exact .pure (.expr (before.append .nil))
  refine .skip fun _ => .skip fun _ => .ite (fun _ => ?_) fun _ => ?_
  · refine known.query.bind fun query after => ?_
    refine (expect_ensures known.admits _).discard.seq fun _ => .skip fun span => .pure ?_
    exact .expr (before.append after)
  · refine (expressions_ensures known).bind fun values after => ?_
    refine (expect_ensures known.admits _).discard.seq fun _ => .skip fun span => .pure ?_
    exact .expr (before.append after)

theorem isTest_ensures {operand : Expr} (before : Flawless named operand.present) :
    Ensures allowed input (grammar.isTest operand) fun e => Flawless named e.present := by
  refine .skip fun negated => .skip fun token => ?_
  split
  · exact .skip fun _ => .skip fun span => .pure (.expr before)
  · exact .skip fun _ => .skip fun span => .pure (.expr before)
  · exact .skip fun _ => .skip fun span => .pure (.expr before)
  · refine .skip fun _ => (expect_ensures known.admits _).discard.seq fun _ => ?_
    refine (known.expressionAbove _).bind fun right after => .skip fun span => .pure ?_
    exact .expr (before.append after)
  · exact (unexpected_ensures known.admits _).seq fun _ => .pure before

omit known in
theorem fieldAccess_ensures (admits : input.Admits allowed) {operand : Expr}
    (before : Flawless named operand.present) :
    Ensures allowed input (fieldAccess operand) fun e => Flawless named e.present := by
  refine .skip fun _ => .branch (.skip fun span => .pure (.expr .nil)) ?_
  refine (Attempt.orNote_ensures (Attempt.identifier_ensures admits)).seq fun name => ?_
  cases name with
  | none => exact .pure before
  | some name => exact .skip fun span => .pure (.expr before)

theorem applyOperator_ensures {operand : Expr} (before : Flawless named operand.present)
    (precedence : Precedence) (negated : Bool) :
    Ensures allowed input (grammar.applyOperator operand precedence negated)
      fun e => Flawless named e.present := by
  refine .skip fun operator => ?_
  split
  · exact .skip fun _ => membership_ensures known before negated
  · refine .skip fun _ => (known.expressionAbove _).bind fun pattern after => .skip fun span => ?_
    exact .pure (.expr (before.append after))
  · refine .skip fun _ => (known.expressionAbove _).bind fun low between => ?_
    refine (expect_ensures known.admits _).discard.seq fun _ => ?_
    refine (known.expressionAbove _).bind fun high after => .skip fun span => .pure ?_
    exact .expr ((before.append between).append after)
  · exact .skip fun _ => isTest_ensures known before
  · refine .skip fun dialect => ?_
    split
    · next form _ =>
      refine .skip fun _ => (Attempt.orNote_ensures (continuing_ensures known before form)).bind
        fun found holds => .pure ?_
      cases found with
      | none => exact before
      | some e => exact holds e rfl
    · refine .skip fun _ => (known.expressionAbove _).bind fun right after => ?_
      refine .ite (fun _ => .pure before) fun _ => .skip fun span => .pure ?_
      exact .expr (before.append after)

theorem nextOperator_ensures (above : Precedence) {operand : Expr}
    (before : Flawless named operand.present) :
    Ensures allowed input (grammar.nextOperator above operand) fun found => ∀ e ∈ found,
      Flawless named e.present := by
  have applied {p : Parser Expr} (ensures : Ensures allowed input p fun e => Flawless named e.present) :
      Ensures allowed input (do return some (← p)) fun found => ∀ e ∈ found, Flawless named e.present :=
    ensures.bind fun e holds => .pure fun _ same => Option.some.inj same ▸ holds
  refine .skip fun token => ?_
  split
  · refine .skip fun next => .ite (fun _ => .skip fun _ => ?_) fun _ => .pure nofun
    exact applied (applyOperator_ensures known before _ true)
  · exact .ite (fun _ => applied (fieldAccess_ensures known.admits before)) fun _ => .pure nofun
  · refine .skip fun dialect => .ite (fun _ => .pure nofun) fun _ => ?_
    exact applied (applyOperator_ensures known before _ false)

theorem operators_ensures (above : Precedence) (mark bound : Nat) {operand : Expr}
    (before : Flawless named operand.present) :
    Ensures allowed input (grammar.operators above mark bound operand)
      fun e => Flawless named e.present := by
  induction bound generalizing operand with
  | zero => exact .exhausted
  | succ bound ih =>
    refine .branch (.pure before) ((nextOperator_ensures known above before).bind fun found holds => ?_)
    cases found with
    | none => exact .pure before
    | some applied => exact ih (holds applied rfl)

theorem readExpression_ensures (above : Precedence) :
    Ensures allowed input (grammar.readExpression above) fun e => Flawless named e.present := by
  refine .skip fun mark => (operand_ensures known).bind fun operand holds => ?_
  exact .ite (fun _ => .pure holds) fun _ => .skip fun _ => operators_ensures known above mark _ holds

end Grammar

end QueryLint
