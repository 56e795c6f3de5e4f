import QueryLint.Proofs.Syntax.Fixed
import QueryLint.Proofs.Usage.Soundness

/-!
Where the columns of named queries stand. A column is where its select item computes it or, passed on by
a star, where the star is. Every action keeps the spans that the columns at hand have
(`Progress.Spanned.apply`), so a property that the spans in the tree have is one that every reported column has.
-/

namespace QueryLint.Usage

variable {allowed : Span → Prop}

/-- The columns that an action finds have allowed spans. -/
@[simp] def Action.Spans (allowed : Span → Prop) : Action → Prop
  | .column found => allowed found.span
  | .star _ span _ => allowed span
  | _ => True

structure Progress.Spanned (allowed : Span → Prop) (progress : Progress) : Prop where
  made : ∀ definition ∈ progress.model.definitions, ∀ column ∈ definition.columns,
    allowed column.span
  found : ∀ columns ∈ progress.columns, ∀ column ∈ columns, allowed column.span

theorem forall_renameColumns {columns : List Column} (all : ∀ column ∈ columns, allowed column.span)
    (names : List String) : ∀ column ∈ renameColumns columns names, allowed column.span := by
  induction columns generalizing names with
  | nil => simp [renameColumns]
  | cons first rest ih =>
    cases names with
    | nil => simpa [renameColumns] using all
    | cons name names =>
      simp only [List.forall_mem_cons, renameColumns] at all ⊢
      exact ⟨all.1, ih all.2 names⟩

namespace Progress.Spanned

variable {progress : Progress}

theorem start : ({} : Progress).Spanned allowed := ⟨List.forall_mem_nil _, List.forall_mem_nil _⟩

theorem head (spanned : progress.Spanned allowed) :
    ∀ column ∈ progress.columns.headD [], allowed column.span := by
  cases split : progress.columns with
  | nil => exact List.forall_mem_nil _
  | cons columns rest => exact spanned.found columns (split ▸ List.mem_cons_self)

theorem tail (spanned : progress.Spanned allowed) :
    ∀ columns ∈ progress.columns.tail, ∀ column ∈ columns, allowed column.span :=
  fun columns member => spanned.found columns (List.mem_of_mem_tail member)

theorem addColumns (spanned : progress.Spanned allowed) {columns : List Column}
    (all : ∀ column ∈ columns, allowed column.span) :
    (progress.addColumns columns).Spanned allowed where
  made := spanned.made
  found := by
    intro block member column listed
    rcases List.mem_cons.1 member with rfl | outer
    · rcases List.mem_append.1 listed with earlier | new
      · exact spanned.head column earlier
      · exact all column new
    · exact spanned.tail block outer column listed

theorem withMarks (spanned : progress.Spanned allowed) (reached : Nat → String → Prop) :
    ({ progress with model := progress.model.marking reached } : Progress).Spanned allowed where
  made := by
    intro definition member column listed
    obtain ⟨id, inside, rfl⟩ := List.mem_mapIdx.1 member
    obtain ⟨original, known, rfl⟩ := List.mem_map.1 listed
    exact spanned.made _ (List.getElem_mem inside) original known
  found := spanned.found

theorem register (spanned : progress.Spanned allowed) {definition : Definition}
    (all : ∀ column ∈ definition.columns, allowed column.span) :
    ({ progress with model := progress.model.register definition } : Progress).Spanned allowed where
  made := by
    intro other member
    rcases List.mem_append.1 member with earlier | new
    · exact spanned.made other earlier
    · rw [List.mem_singleton.1 new]
      exact all
  found := spanned.found

/-- An action that finds columns with allowed spans leaves no other columns at hand. -/
theorem apply (spanned : progress.Spanned allowed) {action : Action} (spans : action.Spans allowed) :
    (action.apply progress).Spanned allowed := by
  cases action with
  | define name nameSpan names =>
    let definition : Definition :=
      { name, nameSpan, columns := renameColumns (progress.columns.headD []) names }
    have columns : ∀ column ∈ definition.columns, allowed column.span :=
      forall_renameColumns spanned.head names
    exact ⟨(spanned.register columns).made, spanned.tail⟩
  | defineUnread name nameSpan => exact spanned.register (List.forall_mem_nil _)
  | bindTable table =>
    simp only [Action.apply]
    rcases bindSource_table progress.chain.tail progress.scope table progress.model with
      ⟨ref, visited⟩ | ⟨target, visited, -⟩
    · rw [visited, Model.markRef_eq]
      exact ⟨(spanned.withMarks _).made, spanned.found⟩
    · rw [visited]
      exact ⟨spanned.made, spanned.found⟩
  | reference ref =>
    simp only [Action.apply, Model.markRef_eq]
    exact spanned.withMarks _
  | readSources =>
    simp only [Action.apply, Model.markAll_eq]
    exact spanned.withMarks _
  | beginColumns =>
    exact ⟨spanned.made, List.forall_mem_cons.2 ⟨List.forall_mem_nil _, spanned.found⟩⟩
  | column found => exact spanned.addColumns (List.forall_mem_singleton.2 spans)
  | star table span modifiers =>
    simp only [Action.apply, Model.expandStar_eq]
    have passed : ∀ column ∈ progress.model.passedOn progress.chain table span modifiers,
        allowed column.span := by
      intro column member
      obtain ⟨id, -, listed⟩ := List.mem_flatMap.1 member
      obtain ⟨original, -, rfl⟩ := List.mem_map.1 listed
      exact spans
    exact ⟨(spanned.withMarks _).made, (spanned.addColumns passed).found⟩
  | dropColumns => exact ⟨spanned.made, spanned.tail⟩
  | _ => exact ⟨spanned.made, spanned.found⟩

theorem run (spanned : progress.Spanned allowed) {actions : List Action}
    (spans : ∀ action ∈ actions, action.Spans allowed) : (progress.run actions).Spanned allowed := by
  induction actions generalizing progress with
  | nil => exact spanned
  | cons action rest ih =>
    rw [List.forall_mem_cons] at spans
    exact ih (spanned.apply spans.1) spans.2

end Progress.Spanned

/-! ### The spans of a tree -/

variable {place : Position → Position}

def SpansFixed (place : Position → Position) (actions : List Action) : Prop :=
  ∀ action ∈ actions, action.Spans (Span.Kept place)

namespace SpansFixed

variable {first second : List Action}

@[simp] theorem append_iff : SpansFixed place (first ++ second) ↔
    SpansFixed place first ∧ SpansFixed place second := List.forall_mem_append

@[simp] theorem cons_iff {action : Action} : SpansFixed place (action :: second) ↔
    action.Spans (Span.Kept place) ∧ SpansFixed place second := List.forall_mem_cons

@[simp] theorem nil : SpansFixed place [] := List.forall_mem_nil _

theorem flatMap {nodes : List Node} (each : ∀ node ∈ nodes, SpansFixed place (nodeActions node)) :
    SpansFixed place (nodes.flatMap nodeActions) := by
  intro action member
  obtain ⟨node, listed, member⟩ := List.mem_flatMap.1 member
  exact each node listed action member

end SpansFixed

mutual

theorem queryActions_fixed (final : Bool) (query : Query) (fixes : Fixes place (Node.query query)) :
    SpansFixed place (queryActions final query) := by
  match query with
  | ⟨_, definitions, body⟩ =>
    have own := defineActions_fixed definitions fun clause found =>
      fixes.child (by simp [Node.children, found])
    have rows := bodyActions_fixed final true body (fixes.child (by simp [Node.children]))
    simp [queryActions, own, rows]
termination_by (sizeOf query, 0)

theorem defineActions_fixed (definitions : Option WithClause)
    (fixes : ∀ clause, definitions = some clause → Fixes place (Node.definitions clause)) :
    SpansFixed place (defineActions definitions) := by
  match definitions with
  | none => simp [defineActions]
  | some ⟨_, _, ctes⟩ =>
    have clause := fixes _ rfl
    rw [defineActions]
    exact cteActions_fixed ctes fun cte member => clause.child (by simp [Node.children, member])
termination_by (sizeOf definitions, 0)

theorem cteActions_fixed (ctes : List Cte) (fixes : ∀ cte ∈ ctes, Fixes place (Node.cte cte)) :
    SpansFixed place (cteActions ctes) := by
  match ctes with
  | [] => simp [cteActions]
  | ⟨_, name, nameSpan, _, none⟩ :: rest =>
    have others := cteActions_fixed rest fun cte member => fixes cte (List.mem_cons_of_mem _ member)
    simp [cteActions, others]
  | ⟨_, name, nameSpan, names, some query⟩ :: rest =>
    have inner := queryActions_fixed false query
      ((fixes _ List.mem_cons_self).child (by simp [Node.children]))
    have others := cteActions_fixed rest fun cte member => fixes cte (List.mem_cons_of_mem _ member)
    simp [cteActions, inner, others]
termination_by (sizeOf ctes, 0)

theorem bodyActions_fixed (final first : Bool) (body : QueryBody)
    (fixes : Fixes place (Node.body body)) : SpansFixed place (bodyActions final first body) := by
  match body with
  | .single _ (.block block) =>
    rw [bodyActions]
    exact blockActions_fixed final block (fixes.child (by simp [Node.children, Operand.node]))
  | .single _ (.nested query) =>
    rw [bodyActions]
    exact queryActions_fixed (final && first) query
      (fixes.child (by simp [Node.children, Operand.node]))
  | .combined _ (.block block) _ _ right =>
    have left := blockActions_fixed final block (fixes.child (by simp [Node.children, Operand.node]))
    have others := bodyActions_fixed final false right (fixes.child (by simp [Node.children]))
    simp [bodyActions, left, others]
  | .combined _ (.nested query) _ _ right =>
    have left := queryActions_fixed false query
      (fixes.child (by simp [Node.children, Operand.node]))
    have others := bodyActions_fixed final false right (fixes.child (by simp [Node.children]))
    simp [bodyActions, left, others]
termination_by (sizeOf body, 0)

theorem blockActions_fixed (final : Bool) (block : SelectBlock)
    (fixes : Fixes place (Node.block block)) : SpansFixed place (blockActions final block) := by
  have clauses : SpansFixed place
      ((clauseNodes block (final || block.hasLimit)).flatMap nodeActions) := by
    refine .flatMap fun node member => nodeActions_fixed node (fixes.child ?_)
    simp only [clauseNodes, Node.children, SelectBlock.children, List.mem_append] at member ⊢
    split at member
    · grind
    · simp only [List.not_mem_nil, or_false] at member
      grind
  have items := itemActions_fixed block.items 0 fun item member => fixes.items.mem member
  have sources : SpansFixed place (fromActions block.source) := by
    cases found : block.source with
    | none => exact .nil
    | some source =>
      exact sourcesActions_fixed source
        (fixes.child (by simp [Node.children, SelectBlock.children, found]))
  simp [blockActions_eq, sources, clauses, items]
termination_by (sizeOf block, 0)
decreasing_by
  · exact Prod.Lex.left _ _ (size_lt_of_mem_clauseNodes ‹_›)
  · exact Prod.Lex.left _ _ (size_items_lt block)
  · exact Prod.Lex.left _ _ (size_lt_of_source_eq_some found)

theorem sourcesActions_fixed (source : FromClause) (fixes : Fixes place (Node.source source)) :
    SpansFixed place (sourcesActions source) := by
  match source with
  | ⟨_, first, joins⟩ =>
    have head := sourceActions_fixed first
      (Fixes.table fun node member => fixes.child (by simp [Node.children, member]))
    have tail := joinActions_fixed joins fun join member =>
      fixes.child (by simp [Node.children, member])
    simp [sourcesActions, head, tail]
termination_by (sizeOf source, 0)

theorem joinActions_fixed (joins : List Join) (fixes : ∀ join ∈ joins, Fixes place (Node.join join)) :
    SpansFixed place (joinActions joins) := by
  match joins with
  | [] => simp [joinActions]
  | ⟨_, _, _, right, condition, columns⟩ :: rest =>
    have own := fixes _ List.mem_cons_self
    have source := sourceActions_fixed right
      (Fixes.table fun node member => own.child (by simp [Node.children, member]))
    have conditions : SpansFixed place
        ((optionNodes condition ++ columnNodes columns).flatMap nodeActions) :=
      .flatMap fun node member => nodeActions_fixed node (own.child (by
        simp only [Node.children, List.append_assoc]
        exact List.mem_append_right _ member))
    have others := joinActions_fixed rest fun join member => fixes join (List.mem_cons_of_mem _ member)
    rw [joinActions]
    simp only [flatMap_attach_nodeActions, SpansFixed.append_iff]
    exact ⟨⟨source, conditions⟩, others⟩
termination_by (sizeOf joins, 0)
decreasing_by
  · apply Prod.Lex.left
    simp only [List.cons.sizeOf_spec, Join.mk.sizeOf_spec]
    omega
  · have := size_lt_of_mem_joinNodes ‹_›
    apply Prod.Lex.left
    simp only [List.cons.sizeOf_spec, Join.mk.sizeOf_spec]
    omega
  · apply Prod.Lex.left
    simp only [List.cons.sizeOf_spec, Join.mk.sizeOf_spec]
    omega

theorem sourceActions_fixed (source : TableRef) (fixes : Fixes place (Node.table source)) :
    SpansFixed place (sourceActions source) := by
  match source with
  | .missing => simp [sourceActions]
  | .table table => simp [sourceActions]
  | .derived _ query aliasName =>
    have inner := queryActions_fixed false query
      (fixes.child (by simp [Node.children, TableRef.children]))
    simp [sourceActions, inner]
  | .function _ call aliasName _ offsetAlias =>
    have inner := nodeActions_fixed (.expr call)
      (Fixes.expr fun node member => fixes.child (by simp [Node.children, TableRef.children, member]))
    simp [sourceActions, inner]
  | .pivot _ inner aggregates forColumn values aliasName =>
    have source := sourceActions_fixed inner
      (Fixes.table fun node member => fixes.child (by simp [Node.children, TableRef.children, member]))
    have columns : SpansFixed place ((pivotNodes aggregates forColumn values).flatMap nodeActions) :=
      .flatMap fun node member => nodeActions_fixed node (fixes.child (by
        simp only [Node.children, TableRef.children, pivotNodes, List.mem_append] at member ⊢
        grind))
    simp [sourceActions, source, columns]
  | .unpivot _ inner _ _ groups aliasName =>
    have source := sourceActions_fixed inner
      (Fixes.table fun node member => fixes.child (by simp [Node.children, TableRef.children, member]))
    have columns : SpansFixed place ((groups.flatMap (·.columns)).map .reference) := by
      intro action member
      obtain ⟨ref, -, rfl⟩ := List.mem_map.1 member
      trivial
    simp [sourceActions, source, columns]
termination_by (sizeOf source, 0)
decreasing_by
  · apply Prod.Lex.left
    simp only [TableRef.derived.sizeOf_spec]
    omega
  · apply Prod.Lex.left
    simp only [Node.size, TableRef.function.sizeOf_spec]
    omega
  · apply Prod.Lex.left
    simp only [TableRef.pivot.sizeOf_spec]
    omega
  · exact Prod.Lex.left _ _ (size_lt_of_mem_pivotNodes ‹_›)
  · apply Prod.Lex.left
    simp only [TableRef.unpivot.sizeOf_spec]
    omega

theorem nodeActions_fixed (node : Node) (fixes : Fixes place node) :
    SpansFixed place (nodeActions node) := by
  by_cases column : ∃ ref, node = .expr (.column ref)
  · obtain ⟨ref, rfl⟩ := column
    simp [nodeActions]
  by_cases subquery : ∃ span query array, node = .expr (.subquery span query array)
  · obtain ⟨span, query, array, shape⟩ := subquery
    have inner := queryActions_fixed array query
      (fixes.child (by simp [shape, Node.children, Expr.children]))
    simp [shape, nodeActions, inner]
  by_cases nested : ∃ query, node = .query query
  · obtain ⟨query, shape⟩ := nested
    have inner := queryActions_fixed false query (shape ▸ fixes)
    simp [shape, nodeActions, inner]
  simp only [not_exists] at column subquery nested
  rw [nodeActions_children column subquery nested]
  exact .flatMap fun child member => nodeActions_fixed child (fixes.child member)
termination_by (node.size, 1)
decreasing_by
  · apply Prod.Lex.left
    simp only [shape, Node.size, Expr.subquery.sizeOf_spec]
    omega
  · rw [shape]
    exact Prod.Lex.right _ (by decide)
  · exact Prod.Lex.left _ _ (Node.size_lt_of_mem_children member)

theorem itemActions_fixed (items : List SelectItem) (anonymous : Nat)
    (fixes : ∀ item ∈ items, Fixes place item) : SpansFixed place (itemActions items anonymous) := by
  match items with
  | [] => simp [itemActions]
  | .star span modifiers :: rest =>
    obtain ⟨own, others⟩ := List.forall_mem_cons.1 fixes
    have star := starActions_fixed "" span modifiers (Fixes.kept (SelectItem.star.inj own).1)
      fun node member => own.itemNodes.mem member
    rw [itemActions]
    exact SpansFixed.append_iff.2 ⟨star, itemActions_fixed rest anonymous others⟩
  | .tableStar span table modifiers :: rest =>
    obtain ⟨own, others⟩ := List.forall_mem_cons.1 fixes
    have star := starActions_fixed table span modifiers (Fixes.kept (SelectItem.tableStar.inj own).1)
      fun node member => own.itemNodes.mem member
    rw [itemActions]
    exact SpansFixed.append_iff.2 ⟨star, itemActions_fixed rest anonymous others⟩
  | .expr _ expr aliasName _ :: rest =>
    obtain ⟨own, others⟩ := List.forall_mem_cons.1 fixes
    have read := Fixes.expr fun node member => own.itemNodes.mem member
    have column : (defineColumn expr aliasName anonymous).1.span.Kept place := by
      have span : (defineColumn expr aliasName anonymous).1.span = expr.span := by
        unfold defineColumn
        split_ifs <;> rfl
      rw [span]
      exact read.span
    rw [itemActions]
    simp only [SpansFixed.append_iff]
    exact ⟨⟨nodeActions_fixed _ read, SpansFixed.cons_iff.2 ⟨column, .nil⟩⟩,
      itemActions_fixed rest _ others⟩
termination_by (sizeOf items, 0)
decreasing_by
  all_goals
    apply Prod.Lex.left
    simp only [Node.size, List.cons.sizeOf_spec, SelectItem.star.sizeOf_spec,
      SelectItem.tableStar.sizeOf_spec, SelectItem.expr.sizeOf_spec]
    omega

theorem starActions_fixed (table : String) (span : Span) (modifiers : List StarModifier)
    (spans : span.Kept place)
    (fixes : ∀ node ∈ modifiers.flatMap StarModifier.nodes, Fixes place node) :
    SpansFixed place (starActions table span modifiers) := by
  have replacements : SpansFixed place
      ((modifiers.flatMap StarModifier.nodes).flatMap nodeActions) :=
    .flatMap fun node member => nodeActions_fixed node (fixes node member)
  rw [starActions]
  simp only [flatMap_attach_nodeActions, SpansFixed.append_iff]
  exact ⟨replacements, SpansFixed.cons_iff.2 ⟨spans, .nil⟩⟩
termination_by (sizeOf modifiers, 0)
decreasing_by exact Prod.Lex.left _ _ (size_lt_of_mem_modifierNodes ‹_›)

end

/-- A reported column has a span of the tree. -/
theorem kept_of_mem_analyze {query : Query} (fixes : Fixes place (Node.query query))
    {violation : Violation} (member : violation ∈ analyze query) : violation.span.Kept place := by
  have defined := defineActions_fixed query.definitions fun clause found =>
    fixes.child (by simp [Node.children, found])
  have visited := bodyActions_fixed true true query.body (fixes.child (by simp [Node.children]))
  have spanned := Progress.Spanned.start.run (SpansFixed.append_iff.2 ⟨defined, visited⟩)
  have made := run_statementActions query ▸ spanned.made
  obtain ⟨definition, listed, member⟩ := List.mem_flatMap.1 member
  obtain ⟨column, known, rfl⟩ := List.mem_map.1 member
  exact made definition listed column (List.mem_of_mem_filter known)

end QueryLint.Usage
