import QueryLint.Parser.Form
import QueryLint.Proofs.Parser.Ensures.Phrases

/-!
What the special forms of a dialect ensure. Two of them stop with errors that only name their place:
the word for an array with nothing behind it that makes one, and a pivoted value that is no call.
-/

namespace QueryLint

namespace Grammar

open QueryLint.Parser
open QueryLint.Attempt (complete_ensures within_ensures identifier_ensures)

variable {allowed : SyntaxError → Prop} {named : TableName → Prop} {input : ParserInput}
  {grammar : Grammar} (known : grammar.Regular allowed named input)

include known

omit known in
theorem expectWithin_ensures (admits : input.Admits allowed) (context : String) (kind : TokenKind) :
    Attempt.Ensures allowed input (Attempt.within context (Attempt.expect kind)) fun _ => True :=
  within_ensures admits (Attempt.expect_ensures admits kind) context

theorem tryWithin_ensures (context : String) :
    Attempt.Ensures allowed input (Attempt.within context grammar.tryExpression)
      fun e => Flawless named e.present :=
  within_ensures known.admits (complete_ensures known.expression) context

/-! ### Arrays and structures -/

theorem arrayElements_ensures :
    Attempt.Ensures allowed input grammar.arrayElements
      fun elements => Flawless named (exprNodes elements) := by
  refine .skip fun _ => Attempt.Ensures.bind (A := fun elements => Flawless named (exprNodes elements))
    (.ite (fun _ => .pure .nil) fun _ => ?_) fun elements holds => ?_
  · exact (Attempt.commaSeparated_ensures (tryWithin_ensures known _)).mono fun _ => .exprNodes
  · exact (expectWithin_ensures known.admits _ _).seq fun _ => .pure holds

theorem arrayLiteral_ensures :
    Attempt.Ensures allowed input grammar.arrayLiteral fun e => Flawless named e.present := by
  refine .skip fun start => .skip fun _ => (arrayElements_ensures known).bind fun elements holds => ?_
  exact .skip fun span => .pure (.expr holds)

theorem array_ensures :
    Attempt.Ensures allowed input grammar.array fun e => Flawless named e.present := by
  refine .skip fun start => (Attempt.Ensures.lift lookahead_ensures).bind ?_
  rintro _ ⟨place, rfl⟩
  split
  · refine .skip fun _ => .skip fun _ => ?_
    refine (within_ensures known.admits (complete_ensures known.query) _).bind fun query holds => ?_
    refine (expectWithin_ensures known.admits _ _).seq fun _ => .skip fun span => .pure ?_
    exact .expr holds
  · refine (within_ensures known.admits (complete_ensures (typeName_ensures known.admits)) _).seq
      fun typeName => (expectWithin_ensures known.admits _ _).seq fun _ => ?_
    refine (arrayElements_ensures known).bind fun elements holds => .skip fun span => .pure ?_
    exact .expr holds
  · refine .skip fun _ => .skip fun _ => (arrayElements_ensures known).bind fun elements holds => ?_
    exact .skip fun span => .pure (.expr holds)
  · exact Attempt.throw_ensures (known.admits.malformedArray place)

theorem structField_ensures :
    Attempt.Ensures allowed input grammar.structField fun field => Flawless named field.expr.present := by
  refine (tryWithin_ensures known _).bind fun expr holds => .branch ?_ (.pure holds)
  exact (within_ensures known.admits (identifier_ensures known.admits) _).seq fun _ => .pure holds

theorem struct_ensures :
    Attempt.Ensures allowed input grammar.struct fun e => Flawless named e.present := by
  refine .skip fun start => .skip fun _ => Attempt.Ensures.seq (A := fun _ => True)
    (.ite (fun _ => ?_) fun _ => .skip fun _ => .pure trivial) fun typeName => ?_
  · exact within_ensures known.admits (complete_ensures (typeName_ensures known.admits)) _
  refine (expectWithin_ensures known.admits _ _).seq fun _ => .skip fun _ => ?_
  refine Attempt.Ensures.bind (A := fun fields => Flawless named (namedNodes fields))
    (.ite (fun _ => .pure .nil) fun _ => ?_) fun fields holds => ?_
  · exact (Attempt.commaSeparated_ensures (structField_ensures known)).mono fun _ => .flatMap
  · refine (expectWithin_ensures known.admits _ _).seq fun _ => .skip fun span => .pure ?_
    exact .expr holds

theorem opening_ensures (form : OpeningForm) :
    Attempt.Ensures allowed input (grammar.opening form) fun e => Flawless named e.present := by
  cases form with
  | arrayLiteral => exact arrayLiteral_ensures known
  | array => exact array_ensures known
  | struct => exact struct_ensures known

/-! ### Subscripts -/

omit known in
theorem unextended_subscriptMode {e : Expr} (holds : Flawless named e.present) :
    Flawless named (subscriptMode e).2.present := by
  unfold subscriptMode
  split
  · next head argument orderBy limit window =>
    dsimp only
    split
    · have below : Flawless named (exprNodes [argument] ++ orderNodes orderBy ++ optionNodes limit ++
          window.toList.map .window) := holds.children
      intro node member
      refine below node ?_
      simp only [exprNodes, List.flatMap_singleton, List.mem_append]
      exact .inl (.inl (.inl member))
    · exact holds
  · exact holds

theorem continuing_ensures {operand : Expr} (before : Flawless named operand.present)
    (form : ContinuingForm) :
    Attempt.Ensures allowed input (grammar.continuing operand form)
      fun e => Flawless named e.present := by
  cases form with
  | subscript =>
    refine (tryWithin_ensures known _).bind fun index holds => ?_
    refine (expectWithin_ensures known.admits _ _).seq fun _ => .skip fun span => .pure ?_
    exact .expr (before.append (unextended_subscriptMode holds))

/-! ### Modifiers of a star -/

theorem replaceItem_ensures :
    Attempt.Ensures allowed input grammar.replaceItem fun item => Flawless named item.expr.present := by
  refine (tryWithin_ensures known _).bind fun expr holds => ?_
  refine (expectWithin_ensures known.admits _ _).seq fun _ => ?_
  exact (within_ensures known.admits (identifier_ensures known.admits) _).seq fun _ => .pure holds

theorem starModifier_ensures (form : StarForm) :
    Attempt.Ensures allowed input (grammar.starModifier form)
      fun modifier => Flawless named modifier.nodes := by
  cases form with
  | except =>
    refine within_ensures known.admits ((Attempt.expect_ensures known.admits _).seq fun _ => ?_) _
    refine (Attempt.commaSeparated_ensures (identifier_ensures known.admits)).seq fun columns => ?_
    exact (Attempt.expect_ensures known.admits _).seq fun _ => .pure .nil
  | replace =>
    refine (expectWithin_ensures known.admits _ _).seq fun _ => ?_
    refine (Attempt.commaSeparated_ensures (replaceItem_ensures known)).bind fun items each => ?_
    exact (expectWithin_ensures known.admits _ _).seq fun _ => .pure (.flatMap each)

/-! ### Pivoted sources -/

omit known in
theorem trailingAlias_ensures (admits : input.Admits allowed) :
    Attempt.Ensures allowed input trailingAlias fun _ => True := by
  refine .branch (identifier_ensures admits) (.skip fun token => .ite (fun _ => ?_) fun _ => ?_)
  · exact .skip fun _ => .pure trivial
  · exact .pure trivial

theorem pivotAggregate_ensures :
    Attempt.Ensures allowed input grammar.pivotAggregate
      fun item => Flawless named item.expr.present := by
  refine (tryWithin_ensures known _).bind fun expr holds => ?_
  split
  · exact (within_ensures known.admits (trailingAlias_ensures known.admits) _).seq fun _ => .pure holds
  · exact Attempt.throw_ensures (known.admits.pivotWithoutCall _)

theorem pivotValue_ensures :
    Attempt.Ensures allowed input grammar.pivotValue fun item => Flawless named item.expr.present := by
  refine (tryWithin_ensures known _).bind fun expr holds => ?_
  exact (within_ensures known.admits (trailingAlias_ensures known.admits) _).seq fun _ => .pure holds

theorem pivot_ensures {source : TableRef} (before : Flawless named source.present) :
    Attempt.Ensures allowed input (grammar.pivot source) fun table => Flawless named table.present := by
  refine (expectWithin_ensures known.admits _ _).seq fun _ => ?_
  refine (Attempt.commaSeparated_ensures (pivotAggregate_ensures known)).bind fun aggregates given => ?_
  refine (expectWithin_ensures known.admits _ _).seq fun _ => ?_
  refine (within_ensures known.admits (Attempt.columnRef_ensures known.admits) _).seq fun column => ?_
  refine (expectWithin_ensures known.admits _ _).seq fun _ => ?_
  refine (expectWithin_ensures known.admits _ _).seq fun _ => ?_
  refine (Attempt.commaSeparated_ensures (pivotValue_ensures known)).bind fun values listed => ?_
  refine (expectWithin_ensures known.admits _ _).seq fun _ => ?_
  refine (expectWithin_ensures known.admits _ _).seq fun _ => ?_
  refine (within_ensures known.admits (trailingAlias_ensures known.admits) _).seq fun aliasName => ?_
  refine .skip fun span => .pure (.table ?_ nofun)
  exact ((before.append (.flatMap given)).append (.columnNodes [column])).append (.flatMap listed)

instance : Silent nullRows := Silent.bind

omit known in
theorem valueColumns_ensures (admits : input.Admits allowed) :
    Attempt.Ensures allowed input valueColumns fun _ => True := by
  refine .branch ?_ ?_
  · refine (Attempt.commaSeparated_ensures (within_ensures admits (identifier_ensures admits) _)).seq
      fun names => ?_
    exact (expectWithin_ensures admits _ _).seq fun _ => .pure trivial
  · exact (within_ensures admits (identifier_ensures admits) _).seq fun _ => .pure trivial

omit known in
theorem groupLabel_ensures (admits : input.Admits allowed) :
    Attempt.Ensures allowed input groupLabel fun _ => True := by
  refine .branch (.skip fun token => .ite (fun _ => ?_) fun _ => ?_) (.pure trivial)
  · exact .skip fun _ => .pure trivial
  · exact within_ensures admits (identifier_ensures admits) _

omit known in
theorem groupColumns_ensures (admits : input.Admits allowed) :
    Attempt.Ensures allowed input groupColumns fun _ => True := by
  refine .branch ?_ ?_
  · refine (Attempt.commaSeparated_ensures (within_ensures admits
      (Attempt.columnRef_ensures admits) _)).seq fun columns => ?_
    exact (expectWithin_ensures admits _ _).seq fun _ => .pure trivial
  · exact (within_ensures admits (Attempt.columnRef_ensures admits) _).seq fun _ => .pure trivial

omit known in
theorem unpivotGroup_ensures (admits : input.Admits allowed) :
    Attempt.Ensures allowed input unpivotGroup fun _ => True := by
  refine (groupColumns_ensures admits).seq fun columns => ?_
  exact (groupLabel_ensures admits).seq fun _ => .pure trivial

omit known in
theorem unpivot_ensures (admits : input.Admits allowed) {source : TableRef}
    (before : Flawless named source.present) :
    Attempt.Ensures allowed input (unpivot source) fun table => Flawless named table.present := by
  refine .skip fun _ => (expectWithin_ensures admits _ _).seq fun _ => ?_
  refine (valueColumns_ensures admits).seq fun valueColumns => ?_
  refine (expectWithin_ensures admits _ _).seq fun _ => ?_
  refine (within_ensures admits (identifier_ensures admits) _).seq fun nameColumn => ?_
  refine (expectWithin_ensures admits _ _).seq fun _ => ?_
  refine (expectWithin_ensures admits _ _).seq fun _ => ?_
  refine (Attempt.commaSeparated_ensures (unpivotGroup_ensures admits)).seq fun groups => ?_
  refine (expectWithin_ensures admits _ _).seq fun _ => ?_
  refine (expectWithin_ensures admits _ _).seq fun _ => ?_
  refine (within_ensures admits (trailingAlias_ensures admits) _).seq fun aliasName => ?_
  refine .skip fun span => .pure (.table (before.append (.flatMap fun group _ => ?_)) nofun)
  exact .columnNodes group.columns

theorem sourceForm_ensures {source : TableRef} (before : Flawless named source.present)
    (form : SourceForm) :
    Attempt.Ensures allowed input (grammar.sourceForm source form)
      fun table => Flawless named table.present := by
  cases form with
  | pivot => exact pivot_ensures known before
  | unpivot => exact unpivot_ensures known.admits before

end Grammar

end QueryLint
