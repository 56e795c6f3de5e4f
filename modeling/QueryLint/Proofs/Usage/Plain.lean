import QueryLint.Proofs.Usage.Outline

/-!
Parts of a statement without definitions. A node is plain if there is no list of definitions
anywhere below it; the outline of such a node makes nothing, so visiting it leaves what is known
unchanged.
-/

namespace QueryLint.Usage

/-- Nothing at or below the node is a list of definitions. -/
def Plain (node : Node) : Prop :=
  ∀ below ∈ node.descendants, ∀ definitions, below ≠ .definitions definitions

theorem Plain.child {node child : Node} (plain : Plain node) (member : child ∈ node.children) :
    Plain child :=
  fun below lower => plain below (Node.mem_descendants_of_mem_children member lower)

theorem Plain.ne_definitions {node : Node} (plain : Plain node) (definitions : WithClause) :
    node ≠ .definitions definitions := by
  apply plain node
  exact node.mem_descendants_self

theorem Outline.sequence_made {α : Type} {part : α → Model → Outline} {parts : List α}
    (nothing : ∀ entry ∈ parts, ∀ known, (part entry known).made = []) (known : Model) :
    (Outline.sequence part parts known).made = [] := by
  induction parts generalizing known with
  | nil => rfl
  | cons first rest ih =>
    simp only [Outline.sequence, Outline.made_append, List.append_eq_nil_iff]
    exact ⟨nothing first (List.mem_cons_self ..) known,
      ih (fun entry member => nothing entry (List.mem_cons_of_mem _ member)) _⟩

theorem Plain.present {expr : Expr} (plain : ∀ node ∈ expr.present, Plain node) :
    Plain (.expr expr) := by
  cases expr with
  | missing =>
    intro below lower
    unfold Node.descendants Node.walk at lower
    simp [Node.children, Expr.children] at lower
    simp [lower]
  | _ => exact plain _ (by simp [Expr.present])

mutual

theorem outlineQuery_made (chain : ScopeChain) (final : Bool) (query : Query) (known : Model)
    (plain : Plain (.query query)) : (outlineQuery chain final query known).1.made = [] := by
  match query with
  | ⟨_, none, body⟩ =>
    simpa [outlineQuery, outlineWith] using outlineBody_made chain final true body known
      (plain.child (by simp [Node.children]))
  | ⟨_, some clause, body⟩ =>
    have inner : Plain (.definitions clause) := plain.child (by simp [Node.children])
    exact absurd rfl (inner.ne_definitions clause)
termination_by (sizeOf query, 0)

theorem outlineBody_made (chain : ScopeChain) (final first : Bool) (body : QueryBody)
    (known : Model) (plain : Plain (.body body)) :
    (outlineBody chain final first body known).1.made = [] := by
  match body with
  | .single _ (.block block) =>
    simpa [outlineBody] using outlineBlock_made chain final block known
      (plain.child (by simp [Node.children, Operand.node]))
  | .single _ (.nested query) =>
    simpa [outlineBody] using outlineQuery_made chain (final && first) query known
      (plain.child (by simp [Node.children, Operand.node]))
  | .combined _ (.block block) _ _ right =>
    have left := outlineBlock_made chain final block known
      (plain.child (by simp [Node.children, Operand.node]))
    simpa [outlineBody, left] using outlineBody_made chain final false right _
      (plain.child (by simp [Node.children]))
  | .combined _ (.nested query) _ _ right =>
    have left := outlineQuery_made chain false query known
      (plain.child (by simp [Node.children, Operand.node]))
    simpa [outlineBody, left] using outlineBody_made chain final false right _
      (plain.child (by simp [Node.children]))
termination_by (sizeOf body, 0)

theorem outlineBlock_made (chain : ScopeChain) (final : Bool) (block : SelectBlock) (known : Model)
    (plain : Plain (.block block)) : (outlineBlock chain final block known).1.made = [] := by
  have clauses (scope : Scope) : ∀ node ∈ clauseNodes block (final || block.hasLimit), ∀ known,
      (outlineNode (scope :: chain) node known).made = [] := by
    intro node member known
    apply outlineNode_made (scope :: chain) node known
    apply plain.child
    simp only [clauseNodes, Node.children, SelectBlock.children, List.mem_append] at member ⊢
    split at member
    · grind
    · simp only [List.not_mem_nil, or_false] at member
      grind
  have items (scope : Scope) (known : Model) :
      (outlineItems (scope :: chain) block.items 0 known).1.made = [] := by
    apply outlineItems_made (scope :: chain) block.items 0 known
    intro node member
    apply plain.child
    simp [Node.children, SelectBlock.children, member]
  rw [outlineBlock_eq]
  cases found : block.source with
  | none => simp [outlineFrom, Outline.sequence_made (clauses []), items]
  | some source =>
    have head := outlineSources_made chain source known
      (plain.child (by simp [Node.children, SelectBlock.children, found]))
    simp [outlineFrom, head, Outline.sequence_made (clauses _), items]
termination_by (sizeOf block, 0)
decreasing_by
  · exact Prod.Lex.left _ _ (size_lt_of_mem_clauseNodes ‹_›)
  · exact Prod.Lex.left _ _ (size_items_lt block)
  · exact Prod.Lex.left _ _ (size_lt_of_source_eq_some found)

theorem outlineSources_made (chain : ScopeChain) (source : FromClause) (known : Model)
    (plain : Plain (.source source)) : (outlineSources chain source known).1.made = [] := by
  match source with
  | ⟨_, first, joins⟩ =>
    have head := outlineSource_made chain [] first known
      (fun node member => plain.child (by simp [Node.children, member]))
    have tail := outlineJoins_made chain (outlineSource chain [] first known).2 joins
      (known.after (outlineSource chain [] first known).1)
      (fun join member => plain.child (by simp [Node.children, member]))
    simp [outlineSources, head, tail]
termination_by (sizeOf source, 0)

theorem outlineJoins_made (chain : ScopeChain) (scope : Scope) (joins : List Join) (known : Model)
    (plain : ∀ join ∈ joins, Plain (.join join)) :
    (outlineJoins chain scope joins known).1.made = [] := by
  match joins with
  | [] => simp [outlineJoins]
  | ⟨span, kind, natural, right, condition, columns⟩ :: rest =>
    have first := plain _ (List.mem_cons_self ..)
    have source := outlineSource_made chain scope right known
      (fun node member => first.child (by simp [Node.children, member]))
    have conditions (scope : Scope) : ∀ node ∈ optionNodes condition ++ columnNodes columns,
        ∀ known, (outlineNode (scope :: chain) node known).made = [] := by
      intro node member known
      apply outlineNode_made (scope :: chain) node known
      apply first.child
      simp only [Node.children, List.mem_append] at member ⊢
      grind
    have others := outlineJoins_made chain (outlineSource chain scope right known).2 rest
    rw [outlineJoins_cons]
    simp [source, Outline.sequence_made (conditions _),
      others _ fun join member => plain join (List.mem_cons_of_mem _ member)]
termination_by (sizeOf joins, 0)
decreasing_by
  · apply Prod.Lex.left
    simp only [List.cons.sizeOf_spec, Join.mk.sizeOf_spec]
    omega
  · have smaller := size_lt_of_mem_joinNodes ‹_›
    apply Prod.Lex.left
    simp only [List.cons.sizeOf_spec, Join.mk.sizeOf_spec]
    omega
  · apply Prod.Lex.left
    simp only [List.cons.sizeOf_spec, Join.mk.sizeOf_spec]
    omega

theorem outlineSource_made (chain : ScopeChain) (scope : Scope) (source : TableRef) (known : Model)
    (plain : ∀ node ∈ source.present, Plain node) :
    (outlineSource chain scope source known).1.made = [] := by
  match source with
  | .missing => simp [outlineSource]
  | .table table =>
    simp only [outlineSource]
    split
    · rfl
    · split <;> rfl
  | .derived span query aliasName =>
    have outer := plain _ (List.mem_singleton_self _)
    simpa [outlineSource] using outlineQuery_made (scope :: chain) false query known
      (outer.child (by simp [Node.children, TableRef.children]))
  | .function span call aliasName withOffset offsetAlias =>
    have outer := plain _ (List.mem_singleton_self _)
    have inner : Plain (.expr call) := Plain.present fun node member =>
      outer.child (by simpa [Node.children, TableRef.children] using member)
    simpa [outlineSource] using outlineNode_made (scope :: chain) (.expr call) known inner
  | .pivot span inner aggregates forColumn values aliasName =>
    have outer := plain _ (List.mem_singleton_self _)
    have source := outlineSource_made (scope :: chain) [] inner known
      (fun node member => outer.child (by simp [Node.children, TableRef.children, member]))
    have columns (own : Scope) : ∀ node ∈ pivotNodes aggregates forColumn values, ∀ known,
        (outlineNode (own :: scope :: chain) node known).made = [] := by
      intro node member known
      apply outlineNode_made (own :: scope :: chain) node known
      apply outer.child
      simp only [pivotNodes, Node.children, TableRef.children, List.mem_append] at member ⊢
      grind
    rw [outlineSource_pivot]
    simp [source, Outline.sequence_made (columns _)]
  | .unpivot span inner valueColumns nameColumn groups aliasName =>
    have outer := plain _ (List.mem_singleton_self _)
    have source := outlineSource_made (scope :: chain) [] inner known
      (fun node member => outer.child (by simp [Node.children, TableRef.children, member]))
    simp [outlineSource, source]
termination_by (sizeOf source, 0)
decreasing_by
  · apply Prod.Lex.left
    simp only [TableRef.derived.sizeOf_spec]
    omega
  · apply Prod.Lex.left
    simp only [Node.size, TableRef.function.sizeOf_spec]
    omega
  · apply Prod.Lex.left
    simp only [TableRef.pivot.sizeOf_spec]
    omega
  · exact Prod.Lex.left _ _ (size_lt_of_mem_pivotNodes ‹_›)
  · apply Prod.Lex.left
    simp only [TableRef.unpivot.sizeOf_spec]
    omega

theorem outlineNode_made (chain : ScopeChain) (node : Node) (known : Model) (plain : Plain node) :
    (outlineNode chain node known).made = [] := by
  by_cases column : ∃ ref, node = .expr (.column ref)
  · obtain ⟨ref, rfl⟩ := column
    simp [outlineNode]
  by_cases subquery : ∃ span query array, node = .expr (.subquery span query array)
  · obtain ⟨span, query, array, shape⟩ := subquery
    have inner : Plain (.query query) := plain.child (by simp [shape, Node.children, Expr.children])
    simpa [shape, outlineNode] using outlineQuery_made chain array query known inner
  by_cases nested : ∃ query, node = .query query
  · obtain ⟨query, shape⟩ := nested
    simpa [shape, outlineNode] using outlineQuery_made chain false query known (shape ▸ plain)
  simp only [not_exists] at column subquery nested
  rw [outlineNode_children column subquery nested]
  exact Outline.sequence_made
    (fun child member known => outlineNode_made chain child known (plain.child member)) known
termination_by (node.size, 1)
decreasing_by
  · apply Prod.Lex.left
    simp only [shape, Node.size, Expr.subquery.sizeOf_spec]
    omega
  · rw [shape]
    exact Prod.Lex.right _ (by decide)
  · exact Prod.Lex.left _ _ (Node.size_lt_of_mem_children member)

theorem outlineItems_made (chain : ScopeChain) (items : List SelectItem) (anonymous : Nat)
    (known : Model) (plain : ∀ node ∈ items.flatMap SelectItem.nodes, Plain node) :
    (outlineItems chain items anonymous known).1.made = [] := by
  match items with
  | [] => simp [outlineItems]
  | .star span modifiers :: rest =>
    simp only [List.flatMap_cons, SelectItem.nodes, List.forall_mem_append] at plain
    have first := outlineStar_made chain "" span modifiers known plain.1
    have others := outlineItems_made chain rest anonymous
    simp [outlineItems, first, others _ plain.2]
  | .tableStar span table modifiers :: rest =>
    simp only [List.flatMap_cons, SelectItem.nodes, List.forall_mem_append] at plain
    have first := outlineStar_made chain table span modifiers known plain.1
    have others := outlineItems_made chain rest anonymous
    simp [outlineItems, first, others _ plain.2]
  | .expr span expr aliasName aliasSpan :: rest =>
    simp only [List.flatMap_cons, SelectItem.nodes, List.forall_mem_append] at plain
    have first := outlineNode_made chain (.expr expr) known (Plain.present plain.1)
    have others := outlineItems_made chain rest
    simp [outlineItems, first, others _ _ plain.2]
termination_by (sizeOf items, 0)
decreasing_by
  all_goals
    apply Prod.Lex.left
    simp only [Node.size, List.cons.sizeOf_spec, SelectItem.star.sizeOf_spec,
      SelectItem.tableStar.sizeOf_spec, SelectItem.expr.sizeOf_spec]
    omega

theorem outlineStar_made (chain : ScopeChain) (table : String) (span : Span)
    (modifiers : List StarModifier) (known : Model)
    (plain : ∀ node ∈ modifiers.flatMap StarModifier.nodes, Plain node) :
    (outlineStar chain table span modifiers known).1.made = [] := by
  rw [outlineStar_eq]
  simp [Outline.sequence_made fun node member known =>
    outlineNode_made chain node known (plain node member)]
termination_by (sizeOf modifiers, 0)
decreasing_by exact Prod.Lex.left _ _ (size_lt_of_mem_modifierNodes member)

end

end QueryLint.Usage
