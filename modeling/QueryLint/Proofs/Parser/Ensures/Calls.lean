import QueryLint.Parser.Call
import QueryLint.Proofs.Parser.Ensures.Phrases

/-!
What function calls and the constructs that look like them ensure.
-/

namespace QueryLint

namespace Grammar

open QueryLint.Parser

variable {allowed : SyntaxError → Prop} {named : TableName → Prop} {input : ParserInput}
  {grammar : Grammar} (known : grammar.Regular allowed named input)

include known

/-! ### Function calls -/

theorem callArgument_ensures :
    Ensures allowed input grammar.callArgument fun found => Flawless named (optionNodes found.1) := by
  refine .skip fun token => .skip fun _ => (Ensures.of_silent.when _).seq fun _ => .skip fun mark => ?_
  refine known.expression.bind fun argument holds => .branch (.pure .nil) (.skip fun _ => .pure ?_)
  exact .optionNodes fun _ same => Option.some.inj same ▸ holds

theorem callArguments_ensures :
    Ensures allowed input grammar.callArguments fun exprs => Flawless named (exprNodes exprs) := by
  refine .skip fun _ => (chain_ensures (A := fun argument => Flawless named (optionNodes argument))
    (callArgument_ensures known) _).bind fun arguments each => .pure (.exprNodes fun e member => ?_)
  obtain ⟨_, listed, rfl⟩ := List.mem_filterMap.1 member
  have holds : Flawless named (optionNodes (some e)) := each (some e) listed
  simpa [optionNodes, exprNodes] using holds

theorem callOperands_ensures (star : Bool) :
    Ensures allowed input (grammar.callOperands star)
      fun (_, exprs) => Flawless named (exprNodes exprs) := by
  refine .skip fun _ => .ite (fun _ => .pure .nil) fun _ => .skip fun distinct => ?_
  exact (callArguments_ensures known).bind fun arguments holds => .pure holds

instance : Silent nullHandling := Silent.bind

theorem callRestriction_ensures {arguments : List Expr} (before : Flawless named (exprNodes arguments)) :
    Ensures allowed input (grammar.callRestriction arguments)
      fun exprs => Flawless named (exprNodes exprs) := by
  refine .branch (.skip fun _ => known.expression.bind fun bound holds => .pure ?_) (.pure before)
  split
  · exact before
  · rw [exprNodes, List.flatMap_append, List.flatMap_singleton]
    exact before.append holds

theorem callWindow_ensures :
    Ensures allowed input grammar.callWindow
      fun (window, _) => Flawless named (window.toList.map .window) := by
  refine .branch (.branch ?_ (.skip fun token => .ite (fun _ => ?_) fun _ => ?_)) (.pure .nil)
  · exact (windowSpec_ensures known).bind fun window holds => .pure holds
  · exact .skip fun _ => .skip fun span => .pure (unextended_windowNamed token.text span)
  · exact (unexpected_ensures known.admits _).seq fun _ => .pure .nil

theorem call_ensures (start : Position) (path : List PathSegment) :
    Ensures allowed input (grammar.call start path) fun e => Flawless named e.present := by
  refine (expect_ensures known.admits _).discard.seq fun _ => .skip fun star => ?_
  refine (callOperands_ensures known star).bind fun (distinct, arguments) operands => ?_
  refine .skip fun nullHandling => ?_
  refine (callRestriction_ensures known operands).bind fun arguments restricted => ?_
  refine (ordering_ensures known).bind fun orderBy ordered => ?_
  refine (expressionAfter_ensures known _).bind fun limit limited => ?_
  refine (expect_ensures known.admits _).discard.seq fun _ => ?_
  refine (callWindow_ensures known).bind fun (window, complete) windowed => ?_
  refine Ensures.seq (A := fun _ => True) (.ite (fun _ => .of_silent) fun _ => .pure trivial)
    fun span => .pure ?_
  exact .expr (((restricted.append ordered).append limited).append windowed)

/-! ### Case distinctions -/

theorem caseBranch_ensures :
    Ensures allowed input grammar.caseBranch fun found => ∀ branch ∈ found,
      Flawless named (branch.condition.present ++ branch.result.present) := by
  refine .branch ?_ (.pure nofun)
  refine known.expression.bind fun condition before => ?_
  refine (expect_ensures known.admits _).discard.seq fun _ => ?_
  refine known.expression.bind fun result after => .pure fun _ same => ?_
  exact Option.some.inj same ▸ before.append after

theorem caseOperand_ensures :
    Ensures allowed input grammar.caseOperand fun operand => Flawless named (optionNodes operand) := by
  refine .branch (.pure .nil) (known.expression.bind fun e holds => .pure ?_)
  exact .optionNodes fun _ same => Option.some.inj same ▸ holds

theorem caseDistinction_ensures :
    Ensures allowed input grammar.caseDistinction fun e => Flawless named e.present := by
  refine .skip fun start => (expect_ensures known.admits _).discard.seq fun _ => ?_
  refine (caseOperand_ensures known).bind fun operand compared => .skip fun _ => ?_
  refine (repeated_ensures (caseBranch_ensures known) _).bind fun branches each => ?_
  refine .ite (fun _ => (unexpected_ensures known.admits _).seq fun _ => .pure .nil) fun _ => ?_
  refine (expressionAfter_ensures known _).bind fun otherwise last => ?_
  refine (expect_ensures known.admits _).discard.seq fun _ => .skip fun span => .pure ?_
  exact .expr ((compared.append (.flatMap each)).append last)

/-! ### Conversions and time -/

omit known in
theorem fixedWords_ensures (admits : input.Admits allowed) (words : List String) :
    Ensures allowed input (fixedWords words) fun _ => True := by
  induction words with
  | nil => exact .pure trivial
  | cons word words ih =>
    refine .branch (.skip fun _ => ih) ?_
    exact (unexpected_ensures admits _).seq fun _ => .pure trivial

theorem timeZone_ensures : Ensures allowed input grammar.timeZone fun _ => True := by
  refine .branch (.skip fun _ => ?_) (.pure trivial)
  refine (fixedWords_ensures known.admits _).seq fun _ => .ite (fun _ => ?_) fun _ => .pure trivial
  exact known.expression.discard

theorem castFormat_ensures : Ensures allowed input grammar.castFormat fun _ => True := by
  refine .branch (.skip fun _ => ?_) (.pure trivial)
  exact known.expression.discard.seq fun _ => timeZone_ensures known

theorem cast_ensures (start : Position) (safe : Bool) :
    Ensures allowed input (grammar.cast start safe) fun e => Flawless named e.present := by
  refine (expect_ensures known.admits _).discard.seq fun _ => ?_
  refine known.expression.bind fun operand holds => ?_
  refine (expect_ensures known.admits _).discard.seq fun _ => ?_
  refine (typeName_ensures known.admits).seq fun typeName => (castFormat_ensures known).seq fun _ => ?_
  refine (expect_ensures known.admits _).discard.seq fun _ => .skip fun span => .pure ?_
  exact .expr holds

omit known in
theorem datePart_ensures (admits : input.Admits allowed) (word : Token) :
    Ensures allowed input (datePart word) fun _ => True := by
  refine .branch (.skip fun token => ?_) (.pure trivial)
  refine Ensures.seq (A := fun _ => True)
    (.ite (fun _ => .skip fun _ => .pure trivial) fun _ => .pure trivial) fun argument => ?_
  exact (expect_ensures admits _).discard.seq fun _ => .pure trivial

theorem extract_ensures : Ensures allowed input grammar.extract fun e => Flawless named e.present := by
  refine .skip fun start => (expect_ensures known.admits _).discard.seq fun _ => ?_
  refine (expect_ensures known.admits _).discard.seq fun _ => .skip fun token => ?_
  refine .ite (fun _ => (unexpected_ensures known.admits _).seq fun _ => .pure .nil) fun _ => ?_
  refine .skip fun _ => (datePart_ensures known.admits token).seq fun part => ?_
  refine (expect_ensures known.admits _).discard.seq fun _ => ?_
  refine known.expression.bind fun operand holds => (timeZone_ensures known).seq fun _ => ?_
  refine (expect_ensures known.admits _).discard.seq fun _ => .skip fun span => .pure ?_
  exact .expr holds

instance : Silent lastUnit := Silent.bind

theorem interval_ensures : Ensures allowed input grammar.interval fun e => Flawless named e.present := by
  refine .skip fun start => (expect_ensures known.admits _).discard.seq fun _ => ?_
  refine (known.expressionAbove _).bind fun value holds => ?_
  refine .ite (fun _ => .pure .nil) fun _ => .skip fun token => .ite (fun _ => ?_) fun _ => ?_
  · exact (unexpected_ensures known.admits _).seq fun _ => .pure .nil
  · exact .skip fun _ => .skip fun toUnit => .skip fun span => .pure (.expr holds)

/-! ### Queries in expressions -/

theorem existsQuery_ensures :
    Ensures allowed input grammar.existsQuery fun e => Flawless named e.present := by
  refine .skip fun start => (expect_ensures known.admits _).discard.seq fun _ => ?_
  refine (expect_ensures known.admits _).discard.seq fun _ => ?_
  refine known.query.bind fun query holds => ?_
  refine (expect_ensures known.admits _).discard.seq fun _ => .skip fun span => .pure ?_
  exact .expr holds

end Grammar

end QueryLint
