import QueryLint.Proofs.Usage.Plain
import QueryLint.Proofs.Usage.Reading

/-!
What the scope of a block and the places in it depend on. A block binds its sources by the names that
are known, whatever is done to columns or added to the definitions in between (`SelectBlock.scope`).
The places at which a part without definitions reads columns are then determined by the known names as
well (`outlineNode_sites`).
-/

namespace QueryLint

namespace Usage

/-! ### The scope of a block -/

/-- Binds the name of a source: a single name stands for what it refers to, everything else for a
source whose columns are not known. -/
def Scope.add (known : Model) (scope : Scope) : TableRef → Scope
  | .missing => scope
  | .table table =>
    scope.bind table.exposedName
      (if table.project.isEmpty && table.dataset.isEmpty then known.lookup table.name else none)
  | .derived _ _ aliasName | .pivot _ _ _ _ _ aliasName | .unpivot _ _ _ _ _ aliasName =>
    scope.bind aliasName none
  | .function _ _ aliasName _ offsetAlias => (scope.bind aliasName none).bind offsetAlias none

def Scope.addJoins (known : Model) (scope : Scope) (joins : List Join) : Scope :=
  joins.foldl (fun scope join => scope.add known join.right) scope

end Usage

open Usage

def SelectBlock.scope (block : SelectBlock) (known : Model) : Scope :=
  match block.source with
  | none => []
  | some clause => (Scope.add known [] clause.source).addJoins known clause.joins

namespace Usage

variable {known known' : Model}

theorem lookup_congr (same : known.latest = known'.latest) (name : String) :
    known.lookup name = known'.lookup name := by
  rw [Model.lookup, Model.lookup, same]

namespace Scope

theorem add_congr (same : known.latest = known'.latest) (scope : Scope) (source : TableRef) :
    scope.add known source = scope.add known' source := by
  cases source <;> simp only [add, lookup_congr same]

theorem addJoins_congr (same : known.latest = known'.latest) (scope : Scope) (joins : List Join) :
    scope.addJoins known joins = scope.addJoins known' joins := by
  unfold addJoins
  simp only [add_congr same]

theorem Within.add (named : known.Named) {scope : Scope}
    (within : scope.Within known.definitions.length) (source : TableRef) :
    (scope.add known source).Within known.definitions.length := by
  cases source with
  | missing => exact within
  | table table =>
    apply within.bind
    intro id found
    split at found
    · exact named.lookup found
    · cases found
  | derived _ _ aliasName => exact within.bindNone aliasName
  | function _ _ aliasName _ offsetAlias => exact (within.bindNone aliasName).bindNone offsetAlias
  | pivot _ _ _ _ _ aliasName => exact within.bindNone aliasName
  | unpivot _ _ _ _ _ aliasName => exact within.bindNone aliasName

theorem Within.addJoins (named : known.Named) {scope : Scope}
    (within : scope.Within known.definitions.length) (joins : List Join) :
    (scope.addJoins known joins).Within known.definitions.length := by
  induction joins generalizing scope with
  | nil => exact within
  | cons join rest ih => exact ih (within.add named join.right)

end Scope

theorem scope_congr (same : known.latest = known'.latest) (block : SelectBlock) :
    block.scope known = block.scope known' := by
  unfold SelectBlock.scope
  cases block.source with
  | none => rfl
  | some clause => simp only [Scope.add_congr same, Scope.addJoins_congr same]

theorem scope_within (named : known.Named) (block : SelectBlock) :
    (block.scope known).Within known.definitions.length := by
  unfold SelectBlock.scope
  have empty : Scope.Within [] known.definitions.length := List.forall_mem_nil _
  cases block.source with
  | none => exact empty
  | some clause => exact (empty.add named clause.source).addJoins named clause.joins

/-! The pass binds these names, and so does the outline. -/

theorem bindSource_scope (chain : ScopeChain) (scope : Scope) (source : TableRef) (model : Model) :
    (bindSource chain scope source model).2 = scope.add model source := by
  cases source with
  | table table =>
    by_cases path : (if table.project.isEmpty && !table.dataset.isEmpty then
        ScopeChain.resolve (scope :: chain) table.dataset else none).isSome = true
    · have dataset : table.dataset.isEmpty = false := by
        by_contra empty
        simp [empty] at path
      rw [bindSource, if_pos path, Scope.add, dataset, Bool.and_false, if_neg Bool.false_ne_true]
    · rw [bindSource, if_neg path, Scope.add]
  | _ => simp only [bindSource, Scope.add]

theorem joinSources_scope (chain : ScopeChain) (scope : Scope) (joins : List Join) (model : Model) :
    (joinSources chain scope joins model).2 = scope.addJoins model joins := by
  induction joins generalizing scope model with
  | nil => simp only [joinSources, Scope.addJoins, List.foldl_nil]
  | cons join rest ih =>
    have read (inner : Scope) := latest_foldl (fun model node => mark (inner :: chain) node model)
      (optionNodes join.condition ++ columnNodes join.columns)
      fun node _ model => mark_latest (inner :: chain) node model
    have bound := bindSource_latest chain scope join.right model
    rw [joinSources_cons]
    simp only [ih, bindSource_scope]
    exact Scope.addJoins_congr ((read _ _).trans bound) _ rest

theorem sources_scope (chain : ScopeChain) {block : SelectBlock} {clause : FromClause}
    (present : block.source = some clause) (model : Model) :
    (sources chain clause model).2 = block.scope model := by
  obtain ⟨_, first, joins⟩ := clause
  have bound := bindSource_latest chain [] first model
  rw [SelectBlock.scope, present, sources]
  simp only [joinSources_scope, bindSource_scope]
  exact Scope.addJoins_congr bound _ joins

theorem outlineSource_scope (chain : ScopeChain) (scope : Scope) (source : TableRef) (known : Model) :
    (outlineSource chain scope source known).2 = scope.add known source := by
  cases source with
  | table table =>
    by_cases single : table.project.isEmpty && table.dataset.isEmpty
    · simp only [outlineSource, Scope.add, single, if_true]
    · rw [outlineSource, if_neg single, Scope.add, if_neg single]
      split <;> rfl
  | pivot => simp only [outlineSource_pivot, Scope.add]
  | _ => simp only [outlineSource, Scope.add]

theorem outlineJoins_scope (chain : ScopeChain) (scope : Scope) (joins : List Join) (known : Model) :
    (outlineJoins chain scope joins known).2 = scope.addJoins known joins := by
  induction joins generalizing scope known with
  | nil => simp only [outlineJoins, Scope.addJoins, List.foldl_nil]
  | cons join rest ih =>
    rw [outlineJoins_cons]
    simp only [ih, outlineSource_scope]
    exact Scope.addJoins_congr (by simp) _ rest

theorem outlineFrom_scope (chain : ScopeChain) (block : SelectBlock) (known : Model) :
    (outlineFrom chain block.source known).2 = block.scope known := by
  unfold outlineFrom SelectBlock.scope
  cases block.source with
  | none => rfl
  | some clause =>
    obtain ⟨_, first, joins⟩ := clause
    simp only [outlineSources, outlineJoins_scope, outlineSource_scope]
    exact Scope.addJoins_congr (by simp) _ joins

/-! ### Parts without definitions -/

/-- What the part reads depends on the known names and not on the definitions. -/
def NameDriven (part : Model → Outline) : Prop :=
  ∀ known known' : Model, known.latest = known'.latest → (part known).sites = (part known').sites

namespace NameDriven

theorem readAll (sites : List Site) : NameDriven fun _ => .readAll sites :=
  fun _ _ _ => rfl

theorem empty : NameDriven fun _ => {} := readAll []

theorem append {first second : Model → Outline} (head : NameDriven first) (tail : NameDriven second) :
    NameDriven fun known => first known ++ second (known.after (first known)) := by
  intro known known' same
  rw [Outline.sites_append, Outline.sites_append, head known known' same]
  exact congrArg _ (tail _ _ (by simpa using same))

theorem sequence {α : Type} {part : α → Model → Outline} {parts : List α}
    (each : ∀ entry ∈ parts, NameDriven (part entry)) : NameDriven (Outline.sequence part parts) := by
  induction parts with
  | nil => exact empty
  | cons first rest ih =>
    have others := ih fun entry member => each entry (List.mem_cons_of_mem _ member)
    exact (each first (List.mem_cons_self ..)).append others

theorem within {part : Scope → Model → Outline} (each : ∀ scope, NameDriven (part scope))
    {scope : Model → Scope} (bound : ∀ known known', known.latest = known'.latest →
      scope known = scope known') : NameDriven fun known => part (scope known) known := by
  intro known known' same
  simp only [bound known known' same]
  exact each _ known known' same

end NameDriven

theorem mem_children_of_mem_clauseNodes {block : SelectBlock} {ordered : Bool} {node : Node}
    (member : node ∈ clauseNodes block ordered) : node ∈ Node.children (.block block) := by
  simp only [clauseNodes, Node.children, SelectBlock.children, List.mem_append] at member ⊢
  cases ordered <;> grind

mutual

theorem outlineQuery_nameDriven (chain : ScopeChain) (final : Bool) (query : Query)
    (plain : Plain (.query query)) : NameDriven fun known => (outlineQuery chain final query known).1 := by
  match query with
  | ⟨_, none, body⟩ =>
    simp only [outlineQuery, outlineWith]
    exact outlineBody_nameDriven chain final true body (plain.child (by simp [Node.children]))
  | ⟨_, some clause, body⟩ =>
    have inner : Plain (.definitions clause) := plain.child (by simp [Node.children])
    exact absurd rfl (inner.ne_definitions clause)
termination_by (sizeOf query, 0)

theorem outlineBody_nameDriven (chain : ScopeChain) (final first : Bool) (body : QueryBody)
    (plain : Plain (.body body)) :
    NameDriven fun known => (outlineBody chain final first body known).1 := by
  match body with
  | .single _ (.block block) =>
    simpa only [outlineBody] using outlineBlock_nameDriven chain final block
      (plain.child (by simp [Node.children, Operand.node]))
  | .single _ (.nested query) =>
    simpa only [outlineBody] using outlineQuery_nameDriven chain (final && first) query
      (plain.child (by simp [Node.children, Operand.node]))
  | .combined _ (.block block) _ _ right =>
    have left := outlineBlock_nameDriven chain final block
      (plain.child (by simp [Node.children, Operand.node]))
    have others := outlineBody_nameDriven chain final false right
      (plain.child (by simp [Node.children]))
    simp only [outlineBody]
    exact left.append others
  | .combined _ (.nested query) _ _ right =>
    have left := outlineQuery_nameDriven chain false query
      (plain.child (by simp [Node.children, Operand.node]))
    have others := outlineBody_nameDriven chain final false right
      (plain.child (by simp [Node.children]))
    simp only [outlineBody]
    exact left.append others
termination_by (sizeOf body, 0)

theorem outlineBlock_nameDriven (chain : ScopeChain) (final : Bool) (block : SelectBlock)
    (plain : Plain (.block block)) :
    NameDriven fun known => (outlineBlock chain final block known).1 := by
  have bound : NameDriven fun known => (outlineFrom chain block.source known).1 := by
    unfold outlineFrom
    cases found : block.source with
    | none => exact .empty
    | some clause =>
      exact outlineSources_nameDriven chain clause
        (plain.child (by simp [Node.children, SelectBlock.children, found]))
  have clauses (scope : Scope) : NameDriven (Outline.sequence (outlineNode (scope :: chain))
      (clauseNodes block (final || block.hasLimit))) :=
    .sequence fun node member => outlineNode_nameDriven (scope :: chain) node
      (plain.child (mem_children_of_mem_clauseNodes member))
  have items (scope : Scope) := outlineItems_nameDriven (scope :: chain) block.items 0
    fun node member => plain.child (by simp [Node.children, SelectBlock.children, member])
  have inside (scope : Scope) := (bound.append (clauses scope)).append (items scope)
  have whole := NameDriven.within inside fun known known' same => scope_congr same block
  simpa only [outlineBlock_eq, outlineFrom_scope, Model.after_append] using whole
termination_by (sizeOf block, 0)
decreasing_by
  · exact Prod.Lex.left _ _ (size_lt_of_source_eq_some found)
  · exact Prod.Lex.left _ _ (size_lt_of_mem_clauseNodes ‹_›)
  · exact Prod.Lex.left _ _ (size_items_lt block)

theorem outlineSources_nameDriven (chain : ScopeChain) (source : FromClause)
    (plain : Plain (.source source)) :
    NameDriven fun known => (outlineSources chain source known).1 := by
  match source with
  | ⟨_, first, joins⟩ =>
    have head := outlineSource_nameDriven chain [] first
      fun node member => plain.child (by simp [Node.children, member])
    have tail (scope : Scope) := head.append (outlineJoins_nameDriven chain scope joins
      fun join member => plain.child (by simp [Node.children, member]))
    have whole := NameDriven.within tail fun known known' same => Scope.add_congr same [] first
    simpa only [outlineSources, outlineSource_scope] using whole
termination_by (sizeOf source, 0)

theorem outlineJoins_nameDriven (chain : ScopeChain) (scope : Scope) (joins : List Join)
    (plain : ∀ join ∈ joins, Plain (.join join)) :
    NameDriven fun known => (outlineJoins chain scope joins known).1 := by
  match joins with
  | [] =>
    simp only [outlineJoins]
    exact .empty
  | ⟨span, kind, natural, right, condition, columns⟩ :: rest =>
    have first := plain _ (List.mem_cons_self ..)
    have source := outlineSource_nameDriven chain scope right
      fun node member => first.child (by simp [Node.children, member])
    have conditions (scope : Scope) : NameDriven (Outline.sequence (outlineNode (scope :: chain))
        (optionNodes condition ++ columnNodes columns)) := by
      apply NameDriven.sequence
      intro node member
      apply outlineNode_nameDriven (scope :: chain) node
      apply first.child
      simp only [Node.children, List.mem_append] at member ⊢
      grind
    have others (scope : Scope) := outlineJoins_nameDriven chain scope rest
      fun join member => plain join (List.mem_cons_of_mem _ member)
    have inside (scope : Scope) := (source.append (conditions scope)).append (others scope)
    have whole := NameDriven.within inside fun known known' same => Scope.add_congr same scope right
    simpa only [outlineJoins_cons, outlineSource_scope, Model.after_append] using whole
termination_by (sizeOf joins, 0)
decreasing_by
  · apply Prod.Lex.left
    simp only [List.cons.sizeOf_spec, Join.mk.sizeOf_spec]
    omega
  · have smaller := size_lt_of_mem_joinNodes ‹_›
    apply Prod.Lex.left
    simp only [List.cons.sizeOf_spec, Join.mk.sizeOf_spec]
    omega
  · apply Prod.Lex.left
    simp only [List.cons.sizeOf_spec, Join.mk.sizeOf_spec]
    omega

theorem outlineSource_nameDriven (chain : ScopeChain) (scope : Scope) (source : TableRef)
    (plain : ∀ node ∈ source.present, Plain node) :
    NameDriven fun known => (outlineSource chain scope source known).1 := by
  match source with
  | .missing =>
    simp only [outlineSource]
    exact .empty
  | .table table =>
    intro known known' same
    simp only [outlineSource]
    split
    · rfl
    · split <;> rfl
  | .derived span query aliasName =>
    have outer := plain _ (List.mem_singleton_self _)
    simpa only [outlineSource] using outlineQuery_nameDriven (scope :: chain) false query
      (outer.child (by simp [Node.children, TableRef.children]))
  | .function span call aliasName withOffset offsetAlias =>
    have outer := plain _ (List.mem_singleton_self _)
    have inner : Plain (.expr call) := Plain.present fun node member =>
      outer.child (by simpa [Node.children, TableRef.children] using member)
    simpa only [outlineSource] using outlineNode_nameDriven (scope :: chain) (.expr call) inner
  | .pivot span inner aggregates forColumn values aliasName =>
    have outer := plain _ (List.mem_singleton_self _)
    have source := outlineSource_nameDriven (scope :: chain) [] inner
      fun node member => outer.child (by simp [Node.children, TableRef.children, member])
    have columns (own : Scope) : NameDriven (Outline.sequence (outlineNode (own :: scope :: chain))
        (pivotNodes aggregates forColumn values)) := by
      apply NameDriven.sequence
      intro node member
      apply outlineNode_nameDriven (own :: scope :: chain) node
      apply outer.child
      simp only [pivotNodes, Node.children, TableRef.children, List.mem_append] at member ⊢
      grind
    have inside (own : Scope) := (source.append (columns own)).append (.readAll [.whole own])
    have whole := NameDriven.within inside fun known known' same => Scope.add_congr same [] inner
    simpa only [outlineSource_pivot, outlineSource_scope] using whole
  | .unpivot span inner valueColumns nameColumn groups aliasName =>
    have outer := plain _ (List.mem_singleton_self _)
    have source := outlineSource_nameDriven (scope :: chain) [] inner
      fun node member => outer.child (by simp [Node.children, TableRef.children, member])
    have inside (own : Scope) := (source.append (.readAll
      ((groups.flatMap (·.columns)).map (.reference (own :: scope :: chain))))).append
        (.readAll [.whole own])
    have whole := NameDriven.within inside fun known known' same => Scope.add_congr same [] inner
    simpa only [outlineSource, outlineSource_scope] using whole
termination_by (sizeOf source, 0)
decreasing_by
  · apply Prod.Lex.left
    simp only [TableRef.derived.sizeOf_spec]
    omega
  · apply Prod.Lex.left
    simp only [Node.size, TableRef.function.sizeOf_spec]
    omega
  · apply Prod.Lex.left
    simp only [TableRef.pivot.sizeOf_spec]
    omega
  · exact Prod.Lex.left _ _ (size_lt_of_mem_pivotNodes ‹_›)
  · apply Prod.Lex.left
    simp only [TableRef.unpivot.sizeOf_spec]
    omega

theorem outlineNode_nameDriven (chain : ScopeChain) (node : Node) (plain : Plain node) :
    NameDriven (outlineNode chain node) := by
  by_cases column : ∃ ref, node = .expr (.column ref)
  · obtain ⟨ref, rfl⟩ := column
    intro known known' same
    simp only [outlineNode]
  by_cases subquery : ∃ span query array, node = .expr (.subquery span query array)
  · obtain ⟨span, query, array, shape⟩ := subquery
    have inner : Plain (.query query) := plain.child (by simp [shape, Node.children, Expr.children])
    intro known known' same
    simpa only [shape, outlineNode] using
      outlineQuery_nameDriven chain array query inner known known' same
  by_cases nested : ∃ query, node = .query query
  · obtain ⟨query, shape⟩ := nested
    intro known known' same
    simpa only [shape, outlineNode] using
      outlineQuery_nameDriven chain false query (shape ▸ plain) known known' same
  simp only [not_exists] at column subquery nested
  have children : NameDriven (Outline.sequence (outlineNode chain) node.children) :=
    .sequence fun child member => outlineNode_nameDriven chain child (plain.child member)
  intro known known' same
  rw [outlineNode_children column subquery nested, outlineNode_children column subquery nested]
  exact children known known' same
termination_by (node.size, 1)
decreasing_by
  · apply Prod.Lex.left
    simp only [shape, Node.size, Expr.subquery.sizeOf_spec]
    omega
  · rw [shape]
    exact Prod.Lex.right _ (by decide)
  · exact Prod.Lex.left _ _ (Node.size_lt_of_mem_children member)

theorem outlineItems_nameDriven (chain : ScopeChain) (items : List SelectItem) (anonymous : Nat)
    (plain : ∀ node ∈ items.flatMap SelectItem.nodes, Plain node) :
    NameDriven fun known => (outlineItems chain items anonymous known).1 := by
  match items with
  | [] =>
    simp only [outlineItems]
    exact .empty
  | .star span modifiers :: rest =>
    simp only [List.flatMap_cons, SelectItem.nodes, List.forall_mem_append] at plain
    have first := outlineStar_nameDriven chain "" span modifiers plain.1
    simp only [outlineItems]
    exact first.append (outlineItems_nameDriven chain rest anonymous plain.2)
  | .tableStar span table modifiers :: rest =>
    simp only [List.flatMap_cons, SelectItem.nodes, List.forall_mem_append] at plain
    have first := outlineStar_nameDriven chain table span modifiers plain.1
    simp only [outlineItems]
    exact first.append (outlineItems_nameDriven chain rest anonymous plain.2)
  | .expr span expr aliasName aliasSpan :: rest =>
    simp only [List.flatMap_cons, SelectItem.nodes, List.forall_mem_append] at plain
    have first := outlineNode_nameDriven chain (.expr expr) (Plain.present plain.1)
    simp only [outlineItems]
    exact first.append (outlineItems_nameDriven chain rest _ plain.2)
termination_by (sizeOf items, 0)
decreasing_by
  all_goals
    apply Prod.Lex.left
    simp only [Node.size, List.cons.sizeOf_spec, SelectItem.star.sizeOf_spec,
      SelectItem.tableStar.sizeOf_spec, SelectItem.expr.sizeOf_spec]
    omega

theorem outlineStar_nameDriven (chain : ScopeChain) (table : String) (span : Span)
    (modifiers : List StarModifier) (plain : ∀ node ∈ modifiers.flatMap StarModifier.nodes, Plain node) :
    NameDriven fun known => (outlineStar chain table span modifiers known).1 := by
  have replaced : NameDriven (Outline.sequence (outlineNode chain)
      (modifiers.flatMap StarModifier.nodes)) :=
    .sequence fun node member => outlineNode_nameDriven chain node (plain node member)
  simp only [outlineStar_eq]
  exact replaced.append (.readAll _)
termination_by (sizeOf modifiers, 0)
decreasing_by exact Prod.Lex.left _ _ (size_lt_of_mem_modifierNodes member)

end

end Usage

end QueryLint
