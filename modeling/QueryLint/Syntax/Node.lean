import QueryLint.Syntax.Tree

/-!
The nodes of a syntax tree and the order in which they are visited. `Node.children` lists the
nodes directly below one, in source order as the clauses of a block are written down in the tree;
missing operands and sources are no nodes. Children are smaller than their parent
(`Node.size_lt_of_mem_children`), so a tree can be walked to its leaves.
-/

namespace QueryLint

/-- A part of a syntax tree that is visited on its own. -/
inductive Node where
  | query (query : Query)
  | definitions (definitions : WithClause)
  | cte (cte : Cte)
  | body (body : QueryBody)
  | block (block : SelectBlock)
  | source (source : FromClause)
  | join (join : Join)
  | table (table : TableRef)
  | window (window : WindowSpec)
  | expr (expr : Expr)

/-! ### Spans -/

def Expr.span : Expr → Span
  | .missing => {}
  | .column ref => ref.span
  | .literal constant => constant.span
  | .call head .. => head.span
  | .binary span .. | .unary span .. | .case span .. | .cast span .. | .inValues span ..
  | .inQuery span .. | .inUnnest span .. | .between span .. | .isNull span .. | .isBool span ..
  | .like span .. | .paren span .. | .star span .. | .subquery span .. | .exists span ..
  | .struct span .. | .array span .. | .index span .. | .field span .. | .extract span ..
  | .interval span .. => span

def TableRef.span : TableRef → Span
  | .missing => {}
  | .table t => t.span
  | .derived span .. | .function span .. | .pivot span .. | .unpivot span .. => span

def QueryBody.span : QueryBody → Span
  | .single span .. | .combined span .. => span

def SelectItem.span : SelectItem → Span
  | .star span .. | .tableStar span .. | .expr span .. => span

def Node.span : Node → Span
  | .query q => q.span
  | .definitions d => d.span
  | .cte c => c.span
  | .body b => b.span
  | .block b => b.span
  | .source s => s.span
  | .join j => j.span
  | .table t => t.span
  | .window w => w.span
  | .expr e => e.span

/-! ### Children -/

def Expr.isMissing : Expr → Bool
  | .missing => true
  | _ => false

def Expr.present : Expr → List Node
  | .missing => []
  | present => [.expr present]

def TableRef.present : TableRef → List Node
  | .missing => []
  | source => [.table source]

def exprNodes (exprs : List Expr) : List Node := exprs.flatMap Expr.present

def optionNodes (expr : Option Expr) : List Node := exprNodes expr.toList

def columnNodes (columns : List ColumnRef) : List Node := columns.map fun ref => .expr (.column ref)

def orderNodes (items : List OrderItem) : List Node := items.flatMap fun item => item.expr.present

def namedNodes (items : List NamedExpr) : List Node := items.flatMap fun item => item.expr.present

def branchNodes (branches : List CaseBranch) : List Node :=
  branches.flatMap fun branch => branch.condition.present ++ branch.result.present

def StarModifier.nodes : StarModifier → List Node
  | .except _ => []
  | .replace items => namedNodes items

def SelectItem.nodes : SelectItem → List Node
  | .star _ modifiers | .tableStar _ _ modifiers => modifiers.flatMap StarModifier.nodes
  | .expr _ e _ _ => e.present

def Operand.node : Operand → Node
  | .block b => .block b
  | .nested q => .query q

def Expr.children : Expr → List Node
  | .missing | .column _ | .literal _ | .star .. => []
  | .binary _ left _ right => left.present ++ right.present
  | .unary _ _ operand => operand.present
  | .call _ arguments orderBy limit window =>
    exprNodes arguments ++ orderNodes orderBy ++ optionNodes limit ++ window.toList.map .window
  | .case _ operand branches otherwise =>
    optionNodes operand ++ branchNodes branches ++ optionNodes otherwise
  | .cast _ operand _ _ => operand.present
  | .inValues _ operand _ values => operand.present ++ exprNodes values
  | .inQuery _ operand _ query => operand.present ++ [.query query]
  | .inUnnest _ operand _ set => operand.present ++ set.present
  | .between _ operand _ low high => operand.present ++ low.present ++ high.present
  | .isNull _ operand _ => operand.present
  | .isBool _ operand _ _ => operand.present
  | .like _ operand _ pattern => operand.present ++ pattern.present
  | .paren _ inner => inner.present
  | .subquery _ query _ => [.query query]
  | .exists _ query => [.query query]
  | .struct _ _ fields => namedNodes fields
  | .array _ _ elements => exprNodes elements
  | .index _ operand place _ => operand.present ++ place.present
  | .field _ operand _ => operand.present
  | .extract _ _ operand => operand.present
  | .interval _ value _ _ => value.present

def TableRef.children : TableRef → List Node
  | .missing | .table _ => []
  | .derived _ query _ => [.query query]
  | .function _ call _ _ _ => call.present
  | .pivot _ source aggregates forColumn values _ =>
    source.present ++ namedNodes aggregates ++ columnNodes [forColumn] ++ namedNodes values
  | .unpivot _ source _ _ groups _ =>
    source.present ++ groups.flatMap fun group => columnNodes group.columns

def WindowSpec.children (window : WindowSpec) : List Node :=
  exprNodes window.partitionBy ++ orderNodes window.orderBy ++ optionNodes window.firstOffset ++
    optionNodes window.lastOffset

def SelectBlock.children (block : SelectBlock) : List Node :=
  block.items.flatMap SelectItem.nodes ++ block.source.toList.map .source ++
    optionNodes block.filter ++ exprNodes block.groupBy ++ optionNodes block.having ++
    block.windows.map (fun window => .window window.spec) ++ optionNodes block.qualify ++
    orderNodes block.orderBy ++ optionNodes block.limit ++ optionNodes block.offset

def Node.children : Node → List Node
  | .query q => q.definitions.toList.map .definitions ++ [.body q.body]
  | .definitions d => d.ctes.map .cte
  | .cte c => c.query.toList.map .query
  | .body (.single _ operand) => [operand.node]
  | .body (.combined _ left _ _ right) => [left.node, .body right]
  | .block b => b.children
  | .source s => s.source.present ++ s.joins.map .join
  | .join j => j.right.present ++ optionNodes j.condition ++ columnNodes j.columns
  | .table t => t.children
  | .window w => w.children
  | .expr e => e.children

/-! ### Size -/

/-- A size for which children are smaller than their parent. -/
noncomputable def Node.size : Node → Nat
  | .query q => sizeOf q
  | .definitions d => sizeOf d
  | .cte c => sizeOf c
  | .body b => sizeOf b
  | .block b => sizeOf b
  | .source s => sizeOf s
  | .join j => sizeOf j
  | .table t => sizeOf t
  | .window w => sizeOf w
  | .expr e => sizeOf e

theorem Expr.eq_of_mem_present {expr : Expr} {node : Node} (h : node ∈ expr.present) :
    node = .expr expr := by
  cases expr <;> simp_all [Expr.present]

theorem TableRef.eq_of_mem_present {table : TableRef} {node : Node} (h : node ∈ table.present) :
    node = .table table := by
  cases table <;> simp_all [TableRef.present]

theorem size_lt_of_mem_exprNodes {exprs : List Expr} {node : Node} (h : node ∈ exprNodes exprs) :
    node.size < sizeOf exprs := by
  obtain ⟨expr, member, h⟩ := List.mem_flatMap.1 h
  rw [Expr.eq_of_mem_present h]
  exact List.sizeOf_lt_of_mem member

theorem size_lt_of_mem_optionNodes {expr : Option Expr} {node : Node}
    (h : node ∈ optionNodes expr) : node.size < sizeOf expr := by
  cases expr with
  | none => simp [optionNodes, exprNodes] at h
  | some expr =>
    simp only [optionNodes, Option.toList, exprNodes, List.flatMap_singleton] at h
    rw [Expr.eq_of_mem_present h]
    simp [Node.size]

theorem size_lt_of_mem_columnNodes {columns : List ColumnRef} {node : Node}
    (h : node ∈ columnNodes columns) : node.size < sizeOf columns + 1 := by
  obtain ⟨ref, member, rfl⟩ := List.mem_map.1 h
  have smaller := List.sizeOf_lt_of_mem member
  simp only [Node.size, Expr.column.sizeOf_spec]
  omega

theorem size_lt_of_mem_orderNodes {items : List OrderItem} {node : Node}
    (h : node ∈ orderNodes items) : node.size < sizeOf items := by
  obtain ⟨item, member, h⟩ := List.mem_flatMap.1 h
  have smaller := List.sizeOf_lt_of_mem member
  rw [Expr.eq_of_mem_present h]
  cases item
  simp only [Node.size, OrderItem.mk.sizeOf_spec] at smaller ⊢
  omega

theorem size_lt_of_mem_namedNodes {items : List NamedExpr} {node : Node}
    (h : node ∈ namedNodes items) : node.size < sizeOf items := by
  obtain ⟨item, member, h⟩ := List.mem_flatMap.1 h
  have smaller := List.sizeOf_lt_of_mem member
  rw [Expr.eq_of_mem_present h]
  cases item
  simp only [Node.size, NamedExpr.mk.sizeOf_spec] at smaller ⊢
  omega

theorem size_lt_of_mem_branchNodes {branches : List CaseBranch} {node : Node}
    (h : node ∈ branchNodes branches) : node.size < sizeOf branches := by
  obtain ⟨branch, member, h⟩ := List.mem_flatMap.1 h
  have smaller := List.sizeOf_lt_of_mem member
  cases branch
  simp only [CaseBranch.mk.sizeOf_spec] at smaller
  rcases List.mem_append.1 h with h | h <;> rw [Expr.eq_of_mem_present h] <;>
    simp only [Node.size] <;> omega

theorem size_lt_of_mem_modifierNodes {modifiers : List StarModifier} {node : Node}
    (h : node ∈ modifiers.flatMap StarModifier.nodes) : node.size < sizeOf modifiers := by
  obtain ⟨modifier, member, h⟩ := List.mem_flatMap.1 h
  have smaller := List.sizeOf_lt_of_mem member
  cases modifier with
  | except => simp [StarModifier.nodes] at h
  | replace items =>
    have := size_lt_of_mem_namedNodes h
    simp only [StarModifier.replace.sizeOf_spec] at smaller
    omega

theorem size_lt_of_mem_itemNodes {items : List SelectItem} {node : Node}
    (h : node ∈ items.flatMap SelectItem.nodes) : node.size < sizeOf items := by
  obtain ⟨item, member, h⟩ := List.mem_flatMap.1 h
  have smaller := List.sizeOf_lt_of_mem member
  cases item with
  | star span modifiers =>
    have := size_lt_of_mem_modifierNodes h
    simp only [SelectItem.star.sizeOf_spec] at smaller
    omega
  | tableStar span table modifiers =>
    have := size_lt_of_mem_modifierNodes h
    simp only [SelectItem.tableStar.sizeOf_spec] at smaller
    omega
  | expr span expr aliasName aliasSpan =>
    rw [Expr.eq_of_mem_present h]
    simp only [Node.size, SelectItem.expr.sizeOf_spec] at smaller ⊢
    omega

theorem Operand.size_node (operand : Operand) : operand.node.size < sizeOf operand := by
  cases operand <;> simp [Operand.node, Node.size]

theorem Expr.size_lt_of_mem_children {expr : Expr} {node : Node} (h : node ∈ expr.children) :
    node.size < sizeOf expr := by
  have inPresent : ∀ expr : Expr, node ∈ expr.present → node.size = sizeOf expr := by
    intro expr h
    rw [Expr.eq_of_mem_present h, Node.size]
  cases expr <;> simp only [Expr.children, List.mem_append, List.not_mem_nil, List.mem_singleton,
    List.mem_map, Option.mem_toList] at h
  case call head arguments orderBy limit window =>
    simp only [Expr.call.sizeOf_spec]
    rcases h with ((h | h) | h) | ⟨spec, h, rfl⟩
    · have := size_lt_of_mem_exprNodes h; omega
    · have := size_lt_of_mem_orderNodes h; omega
    · have := size_lt_of_mem_optionNodes h; omega
    · subst h; simp only [Node.size, Option.some.sizeOf_spec]; omega
  case case span operand branches otherwise =>
    simp only [Expr.case.sizeOf_spec]
    rcases h with (h | h) | h
    · have := size_lt_of_mem_optionNodes h; omega
    · have := size_lt_of_mem_branchNodes h; omega
    · have := size_lt_of_mem_optionNodes h; omega
  case inValues span operand negated values =>
    simp only [Expr.inValues.sizeOf_spec]
    rcases h with h | h
    · have := inPresent _ h; omega
    · have := size_lt_of_mem_exprNodes h; omega
  case struct => have := size_lt_of_mem_namedNodes h; simp; omega
  case array => have := size_lt_of_mem_exprNodes h; simp; omega
  case inQuery =>
    rcases h with h | rfl
    · have := inPresent _ h; simp; omega
    · simp [Node.size]
  case subquery => subst h; simp only [Node.size, Expr.subquery.sizeOf_spec]; omega
  case «exists» => subst h; simp only [Node.size, Expr.exists.sizeOf_spec]; omega
  all_goals
    (try rcases h with h | h) <;> (try rcases h with h | h) <;>
      rw [inPresent _ h] <;> simp <;> omega

theorem TableRef.size_lt_of_mem_children {table : TableRef} {node : Node}
    (h : node ∈ table.children) : node.size < sizeOf table := by
  have inPresent : ∀ table : TableRef, node ∈ table.present → node.size = sizeOf table := by
    intro table h
    rw [TableRef.eq_of_mem_present h, Node.size]
  cases table <;> simp only [TableRef.children, List.mem_append, List.not_mem_nil,
    List.mem_singleton] at h
  case derived => subst h; simp [Node.size]; omega
  case function =>
    rw [Expr.eq_of_mem_present h]; simp [Node.size]; omega
  case pivot span source aggregates forColumn values aliasName =>
    simp only [TableRef.pivot.sizeOf_spec]
    rcases h with ((h | h) | h) | h
    · have := inPresent _ h; omega
    · have := size_lt_of_mem_namedNodes h; omega
    · obtain ⟨ref, member, rfl⟩ := List.mem_map.1 h
      rw [List.mem_singleton.1 member]
      have : 0 < sizeOf values := by
        cases values <;> simp only [List.nil.sizeOf_spec, List.cons.sizeOf_spec] <;> omega
      simp only [Node.size, Expr.column.sizeOf_spec]
      omega
    · have := size_lt_of_mem_namedNodes h; omega
  case unpivot span source valueColumns nameColumn groups aliasName =>
    simp only [TableRef.unpivot.sizeOf_spec]
    rcases h with h | h
    · have := inPresent _ h; omega
    · obtain ⟨group, member, h⟩ := List.mem_flatMap.1 h
      have := size_lt_of_mem_columnNodes h
      have smaller := List.sizeOf_lt_of_mem member
      cases group
      simp only [UnpivotGroup.mk.sizeOf_spec] at this smaller
      omega

theorem WindowSpec.size_lt_of_mem_children {window : WindowSpec} {node : Node}
    (h : node ∈ window.children) : node.size < sizeOf window := by
  cases window
  simp only [WindowSpec.children, List.mem_append] at h
  simp only [WindowSpec.mk.sizeOf_spec]
  rcases h with ((h | h) | h) | h
  · have := size_lt_of_mem_exprNodes h; omega
  · have := size_lt_of_mem_orderNodes h; omega
  · have := size_lt_of_mem_optionNodes h; omega
  · have := size_lt_of_mem_optionNodes h; omega

theorem SelectBlock.size_lt_of_mem_children {block : SelectBlock} {node : Node}
    (h : node ∈ block.children) : node.size < sizeOf block := by
  cases block
  simp only [SelectBlock.children, List.mem_append, List.mem_map, Option.mem_toList] at h
  simp only [SelectBlock.mk.sizeOf_spec]
  rcases h with ((((((((h | ⟨source, h, rfl⟩) | h) | h) | h) | ⟨window, member, rfl⟩) | h) | h) |
    h) | h
  · have := size_lt_of_mem_itemNodes h; omega
  · subst h; simp only [Node.size, Option.some.sizeOf_spec]; omega
  · have := size_lt_of_mem_optionNodes h; omega
  · have := size_lt_of_mem_exprNodes h; omega
  · have := size_lt_of_mem_optionNodes h; omega
  · have smaller := List.sizeOf_lt_of_mem member
    cases window
    simp only [Node.size, NamedWindow.mk.sizeOf_spec] at smaller ⊢
    omega
  · have := size_lt_of_mem_optionNodes h; omega
  · have := size_lt_of_mem_orderNodes h; omega
  · have := size_lt_of_mem_optionNodes h; omega
  · have := size_lt_of_mem_optionNodes h; omega

theorem Node.size_lt_of_mem_children {parent child : Node} (h : child ∈ parent.children) :
    child.size < parent.size := by
  cases parent with
  | query query =>
    cases query with
    | mk span definitions body =>
      simp only [Node.children, List.mem_append, List.mem_map, Option.mem_toList,
        List.mem_singleton] at h
      rcases h with ⟨clause, h, rfl⟩ | rfl
      · subst h; simp only [Node.size, Query.mk.sizeOf_spec, Option.some.sizeOf_spec]; omega
      · simp only [Node.size, Query.mk.sizeOf_spec]; omega
  | definitions definitions =>
    obtain ⟨cte, member, rfl⟩ := List.mem_map.1 h
    have smaller := List.sizeOf_lt_of_mem member
    cases definitions
    simp only [Node.size, WithClause.mk.sizeOf_spec] at smaller ⊢
    omega
  | cte cte =>
    cases cte with
    | mk span name nameSpan columns query =>
      simp only [Node.children, List.mem_map, Option.mem_toList] at h
      obtain ⟨query, h, rfl⟩ := h
      subst h
      simp [Node.size]; omega
  | body body =>
    cases body with
    | single span operand =>
      have := operand.size_node
      simp only [Node.children, List.mem_singleton] at h
      subst h
      simp only [Node.size, QueryBody.single.sizeOf_spec] at this ⊢
      omega
    | combined span left operator all right =>
      have := left.size_node
      simp only [Node.children, List.mem_cons, List.not_mem_nil, or_false] at h
      rcases h with rfl | rfl
      · simp only [Node.size, QueryBody.combined.sizeOf_spec] at this ⊢
        omega
      · simp [Node.size]
  | block block => exact block.size_lt_of_mem_children h
  | source source =>
    cases source with
    | mk span source joins =>
      simp only [Node.children, List.mem_append, List.mem_map] at h
      rcases h with h | ⟨join, member, rfl⟩
      · rw [TableRef.eq_of_mem_present h]; simp [Node.size]; omega
      · have smaller := List.sizeOf_lt_of_mem member
        simp only [Node.size, FromClause.mk.sizeOf_spec]
        omega
  | join join =>
    cases join with
    | mk span kind natural right condition columns =>
      simp only [Node.children, List.mem_append] at h
      change child.size < sizeOf (Join.mk span kind natural right condition columns)
      rw [Join.mk.sizeOf_spec]
      rcases h with (h | h) | h
      · rw [TableRef.eq_of_mem_present h, Node.size]; omega
      · have := size_lt_of_mem_optionNodes h; omega
      · have := size_lt_of_mem_columnNodes h; omega
  | table table => exact table.size_lt_of_mem_children h
  | window window => exact window.size_lt_of_mem_children h
  | expr expr => exact expr.size_lt_of_mem_children h

end QueryLint
