import QueryLint.Parser.Select
import QueryLint.Proofs.Parser.Ensures.Expressions
import QueryLint.Proofs.Parser.Ensures.Sources
import QueryLint.Proofs.Parser.Retention.Queries

/-!
What select blocks, set operations and definitions ensure. Content goes into a block through the slot
of its clause, so no block gets content without a place where every clause of the dialect has one.
Errors that are noted as recovered were noted as errors before.
-/

namespace QueryLint

/-- Every clause of a dialect has a place of its own in a block. -/
def Dialect.PlacesClauses (dialect : Dialect) : Prop :=
  ∀ kind rule, dialect.clause? kind = some rule → rule.slot ≠ .extensions

/-- Every part of a block is free of clauses without a place, and so is the block. -/
structure SelectBlock.Placed (named : TableName → Prop) (block : SelectBlock) : Prop where
  items : Flawless named (block.items.flatMap SelectItem.nodes)
  source : Flawless named (block.source.toList.map .source)
  slots : ∀ slot, Flawless named (block.slotNodes slot)
  extensions : block.extensions = []

namespace SelectBlock

variable {named : TableName → Prop} {block : SelectBlock} {slot : ClauseSlot} {content : ClauseContent}

theorem slotNodes_assign_of_unsuited (unsuited : content.form.suits slot ≠ true) :
    (block.assign slot content).slotNodes slot = block.slotNodes slot := by
  cases content <;> cases slot <;> first | rfl | exact absurd rfl unsuited

theorem extensions_assign (elsewhere : slot ≠ .extensions) :
    (block.assign slot content).extensions = block.extensions := by
  unfold assign
  split <;> first | rfl | exact absurd rfl elsewhere

namespace Placed

theorem node (placed : block.Placed named) : Flawless named [.block block] := by
  have clauses := ((((placed.items.append placed.source).append (placed.slots .where)).append
    (placed.slots .groupBy)).append (placed.slots .having)).append (placed.slots .window)
  refine .block ?_ placed.extensions
  exact (((clauses.append (placed.slots .qualify)).append (placed.slots .orderBy)).append
    (placed.slots .limit)).append (placed.slots .offset)

theorem assign (placed : block.Placed named) (elsewhere : slot ≠ .extensions)
    (holds : Flawless named content.nodes) : (block.assign slot content).Placed named where
  items := items_assign.symm ▸ placed.items
  source := source_assign.symm ▸ placed.source
  slots other := by
    by_cases same : other = slot
    · subst same
      by_cases suits : content.form.suits other = true
      · exact (slotNodes_assign suits).symm ▸ holds
      · exact (slotNodes_assign_of_unsuited suits).symm ▸ placed.slots other
    · exact (slotNodes_assign_of_ne same).symm ▸ placed.slots other
  extensions := (extensions_assign elsewhere).trans placed.extensions

end Placed

end SelectBlock

namespace Grammar

open QueryLint.Parser

variable {allowed : SyntaxError → Prop} {named : TableName → Prop} {input : ParserInput}
  {grammar : Grammar} (known : grammar.Regular allowed named input)

include known

/-! ### Select items -/

theorem starModifiers_ensures :
    Ensures allowed input grammar.starModifiers
      fun modifiers => Flawless named (modifiers.flatMap StarModifier.nodes) := by
  have step : Ensures allowed input grammar.nextStarModifier
      fun found => ∀ modifier ∈ found, Flawless named modifier.nodes := by
    refine .skip fun dialect => .skip fun token => ?_
    split
    · exact .pure nofun
    · next form _ =>
      refine .branch (.skip fun _ => ?_) (.pure nofun)
      exact Attempt.orNote_ensures (starModifier_ensures known form)
  exact .skip fun _ => (repeated_ensures step _).mono fun _ => .flatMap

theorem selectItem_ensures :
    Ensures allowed input grammar.selectItem fun item => Flawless named item.nodes := by
  refine .skip fun start => .branch ?_ (known.expression.bind fun expr holds => ?_)
  · exact (starModifiers_ensures known).bind fun modifiers holds => .skip fun span => .pure holds
  refine .ite (fun _ => ?_) fun _ => ?_
  · exact (starModifiers_ensures known).bind fun modifiers holds => .skip fun span => .pure holds
  · exact (aliasName_ensures known.admits).seq fun (aliasName, aliasSpan) => .skip fun span => .pure holds

theorem selectItems_ensures :
    Ensures allowed input grammar.selectItems
      fun items => Flawless named (items.flatMap SelectItem.nodes) := by
  refine .skip fun mark => .skip fun bound => ?_
  refine (chain_ensures (A := fun item => Flawless named item.nodes) ?_ _).mono fun _ => .flatMap
  refine (selectItem_ensures known).bind fun item holds => .branch (.pure holds) ?_
  exact .branch (.skip fun _ => .pure holds) (.pure holds)

instance : Silent rowShape := Silent.bind

/-! ### Clauses -/

theorem clauseContent_ensures (form : ClauseForm) :
    Attempt.Ensures allowed input (grammar.clauseContent form)
      fun content => Flawless named content.nodes := by
  cases form with
  | expression =>
    exact (Attempt.complete_ensures known.expression).bind fun expr holds => .pure holds
  | grouping =>
    refine (Attempt.expect_ensures known.admits _).seq fun _ => ?_
    exact (Attempt.complete_ensures (expressions_ensures known)).bind fun exprs holds => .pure holds
  | ordering =>
    refine (Attempt.expect_ensures known.admits _).seq fun _ => ?_
    exact (Attempt.complete_ensures (orderItems_ensures known)).bind fun items holds => .pure holds
  | windows =>
    refine (Attempt.commaSeparated_ensures (namedWindow_ensures known)).bind fun windows each => ?_
    exact .pure (.map each)

omit known in
theorem leftoverClause_ensures (admits : input.Admits allowed) :
    Ensures allowed input leftoverClause fun _ => True := by
  refine .skip fun token => .skip fun dialect => .ite (fun _ => fault_ensures admits _) fun _ => ?_
  exact .ite (fun _ => fault_ensures admits _) fun _ => .pure trivial

variable (places : input.dialect.PlacesClauses)

include places

theorem clause_ensures (mark : Nat) {block : SelectBlock} (placed : block.Placed named) (kind : TokenKind) :
    Ensures allowed input (grammar.clause mark block kind)
      fun found => ∀ block ∈ found, block.Placed named := by
  refine dialect_ensures.bind ?_
  rintro _ rfl
  split
  · next found =>
    refine .skip fun keyword => .skip fun _ => Ensures.bind (clauseContent_ensures known _)
      fun result holds => ?_
    cases result with
    | ok content =>
      have assigned := placed.assign (places _ _ found) holds
      refine .pure fun _ same => Option.some.inj same ▸ ?_
      split
      · refine { assigned with slots := fun slot => ?_ }
        have held := assigned.slots slot
        cases slot <;> exact held
      · exact assigned
    | error error =>
      exact .skip fun failed => ((addError_ensures holds).when _).seq fun _ => .pure nofun
  · exact (fault_ensures known.admits _).seq fun _ => .pure nofun

theorem clausesFrom_ensures (mark : Nat) (rules : List ClauseRule) {block : SelectBlock}
    (placed : block.Placed named) :
    Ensures allowed input (grammar.clausesFrom mark rules block) (SelectBlock.Placed named) := by
  induction rules generalizing block with
  | nil => exact (leftoverClause_ensures known.admits).seq fun _ => .pure placed
  | cons rule rules ih =>
    refine .branch ((clause_ensures known places mark placed rule.kind).bind fun found holds => ?_)
      (ih placed)
    cases found with
    | none => exact .pure placed
    | some block => exact ih (holds block rfl)

theorem selectBlock_ensures :
    Ensures allowed input grammar.selectBlock fun block => Flawless named [.block block] := by
  refine .skip fun start => (expect_ensures known.admits _).seq fun _ => .ite (fun _ => ?_) fun _ => ?_
  · exact .pure (.block .nil rfl)
  refine .skip fun distinct => (Ensures.of_silent.when _).seq fun _ => .skip fun asKind => ?_
  refine (selectItems_ensures known).bind fun items listed => ?_
  have source : Ensures allowed input grammar.selectSource
      fun source => Flawless named (source.toList.map .source) := by
    refine .branch ((fromClause_ensures known).bind fun source holds => .pure ?_) (.pure .nil)
    exact .optionMap fun _ same => Option.some.inj same ▸ holds
  refine source.bind fun source selected => Ensures.bind (A := SelectBlock.Placed named)
    (.skip fun mark => .skip fun dialect => clausesFrom_ensures known places mark _ ?_) fun block placed => ?_
  · exact ⟨listed, selected, fun slot => by cases slot <;> exact .nil, rfl⟩
  · refine .skip fun span => .pure (SelectBlock.Placed.node { placed with slots := fun slot => ?_ })
    have held := placed.slots slot
    cases slot <;> exact held

/-! ### Set operations -/

theorem queryOperand_ensures :
    Ensures allowed input grammar.queryOperand fun operand => Flawless named [operand.node] := by
  refine .branch (known.query.bind fun query holds => ?_) ?_
  · exact (expect_ensures known.admits _).discard.seq fun _ => .pure holds
  · exact (selectBlock_ensures known places).bind fun block holds => .pure holds

theorem readQueryBody_ensures :
    Ensures allowed input grammar.readQueryBody fun body => Flawless named [.body body] := by
  refine .skip fun start => (queryOperand_ensures known places).bind fun operand holds => ?_
  refine .skip fun token => ?_
  split
  · exact .skip fun span => .pure (.of_children holds nofun)
  · refine .skip fun _ => .skip fun all => (Ensures.of_silent.when _).seq fun _ => ?_
    refine known.queryBody.bind fun right after => .skip fun span => .pure ?_
    exact .of_children (holds.cons after) nofun

/-! ### Definitions -/

omit places

omit known in
theorem cteColumns_ensures (admits : input.Admits allowed) :
    Ensures allowed input cteColumns fun _ => True := by
  refine .branch ?_ (.pure trivial)
  refine (Attempt.orNote_ensures (Attempt.commaSeparated_ensures
    (Attempt.identifier_ensures admits))).seq fun columns => ?_
  cases columns with
  | none => exact .pure trivial
  | some columns =>
    exact (expect_ensures admits _).seq fun _ => .ite (fun _ => .pure trivial) fun _ => .pure trivial

omit known in
theorem skipQuery_ensures (opening mark : Nat) {query : Query} (holds : Flawless named [.query query]) :
    Ensures allowed input (skipQuery opening mark query)
      fun (found, _) => ∀ query ∈ found, Flawless named [.query query] := by
  refine .skip fun whole => ?_
  split
  · have forget : Ensures allowed input (update fun state => { state with
        errors := state.errors.take mark
        recovered := state.recovered ++ state.errors.drop mark }) fun _ => True := by
      rintro s _ _ ⟨⟩ noted
      refine ⟨⟨fun error member => noted.errors error (List.mem_of_mem_take member), ?_⟩, trivial⟩
      intro error member
      rcases List.mem_append.1 member with before | dropped
      · exact noted.recovered error before
      · exact noted.errors error (List.mem_of_mem_drop dropped)
    exact forget.seq fun _ => .skip fun _ => .pure nofun
  · exact .pure fun _ same => Option.some.inj same ▸ holds

theorem cteQuery_ensures :
    Ensures allowed input grammar.cteQuery
      fun (found, _) => ∀ query ∈ found, Flawless named [.query query] := by
  refine .skip fun opening => (expect_ensures known.admits _).seq fun _ =>
    .ite (fun _ => .pure nofun) fun _ => .skip fun mark => ?_
  refine known.query.bind fun query holds => .skip fun failed => ?_
  refine ((expect_ensures known.admits _).discard.when _).seq fun _ => .branch ?_ (.pure ?_)
  · exact skipQuery_ensures opening mark holds
  · exact fun _ same => Option.some.inj same ▸ holds

theorem cte_ensures : Ensures allowed input grammar.cte fun cte => Flawless named [.cte cte] := by
  have unread {cte : Cte} (absent : cte.query = none) : Flawless named [.cte cte] :=
    .of_children (.optionMap (absent ▸ nofun)) nofun
  refine .skip fun token => .ite (fun _ => ?_) fun _ => .skip fun _ => ?_
  · exact (unexpected_ensures known.admits _).seq fun _ => .pure (unread rfl)
  refine (cteColumns_ensures known.admits).seq fun columns => ?_
  cases columns with
  | none => exact .pure (unread rfl)
  | some columns =>
    refine (expect_ensures known.admits _).seq fun _ => .ite (fun _ => .pure (unread rfl)) fun _ => ?_
    refine (cteQuery_ensures known).bind fun (query, complete) holds => .ite (fun _ => ?_) fun _ => ?_
    · exact .skip fun span => .pure (.of_children (.optionMap holds) nofun)
    · exact .pure (.of_children (.optionMap holds) nofun)

theorem withClause_ensures :
    Ensures allowed input grammar.withClause
      fun definitions => Flawless named [.definitions definitions] := by
  refine .skip fun start => (expect_ensures known.admits _).discard.seq fun _ => .skip fun recursive => ?_
  refine (commaSeparated_ensures (cte_ensures known)).bind fun ctes each => .skip fun span => ?_
  exact .pure (.of_children (.map each) nofun)

include places

theorem readQuery_ensures :
    Ensures allowed input grammar.readQuery fun query => Flawless named [.query query] := by
  have definitions : Ensures allowed input grammar.queryDefinitions
      fun definitions => Flawless named (definitions.toList.map .definitions) := by
    refine .branch ((withClause_ensures known).bind fun definitions holds => .pure ?_) (.pure .nil)
    exact .optionMap fun _ same => Option.some.inj same ▸ holds
  refine .skip fun start => definitions.bind fun definitions before => ?_
  refine (readQueryBody_ensures known places).bind fun body after => .skip fun span => .pure ?_
  exact .of_children (before.append after) nofun

end Grammar

end QueryLint
