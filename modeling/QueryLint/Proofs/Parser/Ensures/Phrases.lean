import QueryLint.Parser.Window
import QueryLint.Proofs.Parser.Ensures.Basic
import QueryLint.Proofs.Syntax.Unextended

/-!
What names, types, lists of expressions and windows ensure: nothing is noted but faults at tokens, and no
block of what is read has a clause without a place.
-/

namespace QueryLint

open QueryLint.Parser

variable {allowed : SyntaxError → Prop} {input : ParserInput}

/-! ### Names -/

namespace Parser

instance Silent.pathWithin (bound : Nat) : Silent (pathWithin bound) := by
  induction bound with
  | zero => exact Silent.exhausted
  | succ bound ih =>
    unfold Parser.pathWithin
    infer_instance

instance Silent.path : Silent path := Silent.bind

end Parser

namespace Attempt

variable (admits : input.Admits allowed)

include admits

theorem identifier_ensures : Ensures allowed input identifier fun _ => True :=
  .skip fun _ => .ite (fun _ => .skip fun _ => .pure trivial) fun _ => unexpected_ensures admits _

theorem columnRef_ensures : Ensures allowed input columnRef fun _ => True :=
  .skip fun _ => .ite (fun _ => .skip fun _ => .skip fun _ => .pure trivial)
    fun _ => unexpected_ensures admits _

end Attempt

namespace Parser

variable (admits : input.Admits allowed)

include admits

theorem aliasName_ensures : Ensures allowed input aliasName fun _ => True := by
  refine .branch (.skip fun _ => ?_) ?_
  · refine (Attempt.orNote_ensures (Attempt.identifier_ensures admits)).seq fun name => ?_
    cases name <;> exact .pure trivial
  · exact .skip fun _ => .ite (fun _ => .skip fun _ => .pure trivial) fun _ => .pure trivial

theorem typeArguments_ensures (bound : Nat) (depth : Int) (afterWord : Bool) :
    Ensures allowed input (typeArguments bound depth afterWord) fun _ => True := by
  induction bound generalizing depth afterWord with
  | zero => exact .exhausted
  | succ bound ih =>
    refine .skip fun token => .ite (fun _ => ?_) fun _ => ?_
    · exact (unexpected_ensures admits _).seq fun _ => .pure trivial
    · refine .skip fun _ => .ite (fun _ => (ih _ _).seq fun _ => .pure trivial) fun _ => ?_
      exact ((fault_ensures admits _).when _).seq fun _ => .pure trivial

instance Silent.typeParameters (bound : Nat) : Silent (typeParameters bound) := by
  induction bound with
  | zero => exact Silent.exhausted
  | succ bound ih =>
    unfold Parser.typeParameters
    infer_instance

theorem typeName_ensures : Ensures allowed input typeName fun _ => True := by
  refine .skip fun token => .ite (fun _ => ?_) fun _ => .skip fun _ => .skip fun bound => ?_
  · exact (unexpected_ensures admits _).seq fun _ => .pure trivial
  · refine .skip fun _ => Ensures.seq (A := fun _ => True) (.ite (fun _ => ?_) fun _ => .pure trivial)
      fun arguments => ?_
    · exact typeArguments_ensures admits _ _ _
    refine .branch (.skip fun _ => ?_) (.pure trivial)
    exact (expect_ensures admits _).discard.seq fun _ => .pure trivial

end Parser

/-- A predicate on table names that holds of every table whose path is read at a word of the input. -/
structure ParserInput.Names (input : ParserInput) (named : TableName → Prop) : Prop where
  read {s s' : ParserState} {path : List PathSegment} (stop : Position) (aliasName : String)
    (aliasSpan : Span) : (input.token s.index).isWord = true →
    Grammar.tablePath input s = some (path, s') →
    named { PathSegment.tableName path with
      span := ⟨(input.token s.index).span.start, stop⟩, aliasName, aliasSpan }

theorem ParserInput.names_any (input : ParserInput) : input.Names fun _ => True :=
  ⟨fun _ _ _ _ _ => trivial⟩

namespace Grammar

/-- What the nesting productions of a grammar ensure, and that the faults of their tokens may be
noted. -/
structure Regular (allowed : SyntaxError → Prop) (named : TableName → Prop) (input : ParserInput)
    (grammar : Grammar) : Prop where
  admits : input.Admits allowed
  names : input.Names named
  expressionAbove (above : Precedence) :
    Parser.Ensures allowed input (grammar.expressionAbove above) fun e => Flawless named e.present
  query : Parser.Ensures allowed input grammar.query fun query => Flawless named [.query query]
  queryBody : Parser.Ensures allowed input grammar.queryBody fun body => Flawless named [.body body]

variable {named : TableName → Prop} {grammar : Grammar} (known : grammar.Regular allowed named input)

include known

theorem Regular.expression :
    Ensures allowed input grammar.expression fun e => Flawless named e.present :=
  known.expressionAbove _

/-! ### Lists of expressions -/

theorem expressions_ensures :
    Ensures allowed input grammar.expressions fun exprs => Flawless named (exprNodes exprs) :=
  (commaSeparated_ensures known.expression).mono fun _ => .exprNodes

theorem expressionAfter_ensures (keyword : Keyword) :
    Ensures allowed input (grammar.expressionAfter keyword)
      fun expr => Flawless named (optionNodes expr) := by
  refine .branch (known.expression.bind fun e holds => .pure ?_) (.pure .nil)
  exact .optionNodes fun _ same => Option.some.inj same ▸ holds

theorem orderItem_ensures :
    Ensures allowed input grammar.orderItem fun item => Flawless named item.expr.present := by
  refine known.expression.bind fun expr holds => .skip fun descending => ?_
  refine (Ensures.of_silent.when _).seq fun _ => .branch ?_ (.pure holds)
  refine .branch (.pure holds) (.branch (.pure holds) ?_)
  exact (unexpected_ensures known.admits _).seq fun _ => .pure holds

theorem orderItems_ensures :
    Ensures allowed input grammar.orderItems fun items => Flawless named (orderNodes items) :=
  (commaSeparated_ensures (orderItem_ensures known)).mono fun _ => .flatMap

/-! ### Windows -/

theorem frameBound_ensures :
    Ensures allowed input grammar.frameBound fun (_, offset) => Flawless named (optionNodes offset) := by
  refine .branch (.branch (.pure .nil) ?_) (.branch ?_ ?_)
  · exact (expect_ensures known.admits _).discard.seq fun _ => .pure .nil
  · exact (expect_ensures known.admits _).discard.seq fun _ => .pure .nil
  · refine (known.expressionAbove _).bind fun offset holds => ?_
    have holds : Flawless named (optionNodes (some offset)) :=
      .optionNodes fun _ same => Option.some.inj same ▸ holds
    refine .branch (.pure holds) ?_
    exact (expect_ensures known.admits _).discard.seq fun _ => .pure holds

instance : Silent frameUnit := Silent.bind

theorem frame_ensures :
    Ensures allowed input grammar.frame fun (_, first, last) =>
      Flawless named (optionNodes first) ∧ Flawless named (optionNodes last) := by
  refine .skip fun unit => ?_
  cases unit with
  | none => exact .pure ⟨.nil, .nil⟩
  | some unit =>
    refine .branch ?_ ?_
    · refine (frameBound_ensures known).bind fun (first, firstOffset) before => ?_
      refine (expect_ensures known.admits _).discard.seq fun _ => ?_
      exact (frameBound_ensures known).bind fun (last, lastOffset) after => .pure ⟨before, after⟩
    · exact (frameBound_ensures known).bind fun (first, firstOffset) before => .pure ⟨before, .nil⟩

theorem partitioning_ensures :
    Ensures allowed input grammar.partitioning fun exprs => Flawless named (exprNodes exprs) := by
  refine .branch ?_ (.pure .nil)
  exact (expect_ensures known.admits _).discard.seq fun _ => expressions_ensures known

theorem ordering_ensures :
    Ensures allowed input grammar.ordering fun items => Flawless named (orderNodes items) := by
  refine .branch ?_ (.pure .nil)
  exact (expect_ensures known.admits _).discard.seq fun _ => orderItems_ensures known

instance : Silent windowBase := Silent.bind

theorem windowSpec_ensures :
    Ensures allowed input grammar.windowSpec fun window => Flawless named [.window window] := by
  refine .skip fun start => (expect_ensures known.admits _).seq fun _ => .ite (fun _ => ?_) fun _ => ?_
  · exact .pure (.of_children .nil nofun)
  · refine .skip fun name => (partitioning_ensures known).bind fun partitionBy partitioned => ?_
    refine (ordering_ensures known).bind fun orderBy ordered => ?_
    refine (frame_ensures known).bind fun (frame, firstOffset, lastOffset) ⟨first, last⟩ => ?_
    refine (expect_ensures known.admits _).discard.seq fun _ => .skip fun _ => .pure ?_
    exact .of_children (((partitioned.append ordered).append first).append last) nofun

omit known in
theorem unextended_windowNamed (name : String) (span : Span) :
    Flawless named [.window (windowNamed name span)] :=
  .of_children .nil nofun

theorem namedWindow_ensures :
    Attempt.Ensures allowed input grammar.namedWindow fun window => Flawless named [.window window.spec] := by
  refine (Attempt.identifier_ensures known.admits).seq fun name => ?_
  refine (Attempt.expect_ensures known.admits _).seq fun _ => .branch ?_ (.skip fun start => ?_)
  · exact (Attempt.complete_ensures (windowSpec_ensures known)).bind fun spec holds => .pure holds
  · refine (Attempt.identifier_ensures known.admits).seq fun base => .skip fun span => ?_
    exact .pure (unextended_windowNamed base span)

end Grammar

end QueryLint
