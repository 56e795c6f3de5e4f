import QueryLint.Proofs.Syntax.Relocated
import QueryLint.Proofs.Syntax.Unextended

/-!
Trees whose places a map of positions leaves alone. Moving the places of a tree moves those of the
nodes below it (`Node.children_relocate`), so that a map that leaves the places of a tree alone leaves
those of every node in it alone (`Fixes.walk`), and with them the span of the node.
-/

namespace QueryLint

/-- The map leaves every place of the value alone. -/
def Fixes {α : Type} [Located α] (place : Position → Position) (a : α) : Prop := relocate place a = a

variable {place : Position → Position}

theorem Fixes.mem {α : Type} [Located α] {as : List α} (fixes : Fixes place as) {a : α}
    (member : a ∈ as) : Fixes place a :=
  List.map_inj_left.1 (fixes.trans (List.map_id as).symm) a member

/-! ### Nodes -/

def Node.relocate (place : Position → Position) : Node → Node
  | .query q => .query (q.relocate place)
  | .definitions d => .definitions (d.relocate place)
  | .cte c => .cte (c.relocate place)
  | .body b => .body (b.relocate place)
  | .block b => .block (b.relocate place)
  | .source s => .source (s.relocate place)
  | .join j => .join (j.relocate place)
  | .table t => .table (t.relocate place)
  | .window w => .window (w.relocate place)
  | .expr e => .expr (e.relocate place)

theorem Node.relocate_id (node : Node) : node.relocate id = node := by
  cases node with
  | query q => exact congrArg Node.query (Query.relocate_id q)
  | definitions d => exact congrArg Node.definitions (WithClause.relocate_id d)
  | cte c => exact congrArg Node.cte (Cte.relocate_id c)
  | body b => exact congrArg Node.body (QueryBody.relocate_id b)
  | block b => exact congrArg Node.block (SelectBlock.relocate_id b)
  | source s => exact congrArg Node.source (FromClause.relocate_id s)
  | join j => exact congrArg Node.join (Join.relocate_id j)
  | table t => exact congrArg Node.table (TableRef.relocate_id t)
  | window w => exact congrArg Node.window (WindowSpec.relocate_id w)
  | expr e => exact congrArg Node.expr (Expr.relocate_id e)

instance : Located Node := ⟨Node.relocate, Node.relocate_id⟩

section Children

variable (place : Position → Position)

@[simp] theorem Node.relocate_apply (node : Node) :
    Located.relocate place node = node.relocate place := rfl

theorem relocate_map {α : Type} [Located α] (list : List α) {node : α → Node}
    (each : ∀ a, node (relocate place a) = relocate place (node a)) :
    (relocate place list).map node = relocate place (list.map node) := by
  induction list with
  | nil => rfl
  | cons a rest ih => rw [relocate_cons, List.map_cons, List.map_cons, relocate_cons, each, ih]

theorem relocate_toList_map {α : Type} [Located α] (option : Option α) {node : α → Node}
    (each : ∀ a, node (relocate place a) = relocate place (node a)) :
    (relocate place option).toList.map node = relocate place (option.toList.map node) := by
  cases option with
  | none => rfl
  | some a => exact relocate_map place [a] each

theorem relocate_flatMap {α : Type} [Located α] (list : List α) {nodes : α → List Node}
    (each : ∀ a, nodes (relocate place a) = relocate place (nodes a)) :
    (relocate place list).flatMap nodes = relocate place (list.flatMap nodes) := by
  induction list with
  | nil => rfl
  | cons a rest ih => rw [relocate_cons, List.flatMap_cons, List.flatMap_cons, relocate_append, each, ih]

@[simp] theorem Expr.present_relocate (e : Expr) :
    (e.relocate place).present = Located.relocate place e.present := by
  cases e <;> rfl

@[simp] theorem TableRef.present_relocate (t : TableRef) :
    (t.relocate place).present = Located.relocate place t.present := by
  cases t <;> rfl

@[simp] theorem exprNodes_relocate (exprs : List Expr) :
    exprNodes (relocate place exprs) = relocate place (exprNodes exprs) :=
  relocate_flatMap place exprs (Expr.present_relocate place)

@[simp] theorem optionNodes_relocate (expr : Option Expr) :
    optionNodes (relocate place expr) = relocate place (optionNodes expr) := by
  cases expr with
  | none => rfl
  | some e => exact exprNodes_relocate place [e]

@[simp] theorem columnNodes_relocate (columns : List ColumnRef) :
    columnNodes (relocate place columns) = relocate place (columnNodes columns) :=
  relocate_map place columns fun _ => rfl

@[simp] theorem orderNodes_relocate (items : List OrderItem) :
    orderNodes (relocate place items) = relocate place (orderNodes items) :=
  relocate_flatMap place items fun item => by
    obtain ⟨expr, -, -⟩ := item
    exact expr.present_relocate place

@[simp] theorem namedNodes_relocate (items : List NamedExpr) :
    namedNodes (relocate place items) = relocate place (namedNodes items) :=
  relocate_flatMap place items fun item => by
    obtain ⟨expr, -⟩ := item
    exact expr.present_relocate place

@[simp] theorem branchNodes_relocate (branches : List CaseBranch) :
    branchNodes (relocate place branches) = relocate place (branchNodes branches) :=
  relocate_flatMap place branches fun branch => by
    obtain ⟨condition, result⟩ := branch
    rw [relocate_append, ← Expr.present_relocate, ← Expr.present_relocate]
    rfl

theorem SelectItem.nodes_relocate (item : SelectItem) :
    (item.relocate place).nodes = Located.relocate place item.nodes := by
  have modifierNodes (modifier : StarModifier) :
      (modifier.relocate place).nodes = Located.relocate place modifier.nodes := by
    cases modifier with
    | except => rfl
    | replace items =>
      simp only [StarModifier.relocate, StarModifier.nodes, NamedExpr.relocateList_eq,
        namedNodes_relocate]
  cases item with
  | star _ modifiers | tableStar _ _ modifiers =>
    simp only [SelectItem.relocate, SelectItem.nodes, StarModifier.relocateList_eq,
      relocate_flatMap place modifiers modifierNodes]
  | expr _ e _ _ => exact e.present_relocate place

theorem Operand.node_relocate (operand : Operand) :
    (operand.relocate place).node = operand.node.relocate place := by
  cases operand <;> rfl

theorem Expr.children_relocate (e : Expr) :
    (e.relocate place).children = Located.relocate place e.children := by
  cases e with
  | call head arguments orderBy limit window =>
    have windows : (Located.relocate place window).toList.map Node.window =
        Located.relocate place (window.toList.map .window) :=
      relocate_toList_map place window fun _ => rfl
    simp [Expr.children, windows]
  | _ => simp [Expr.children, Node.relocate]

theorem TableRef.children_relocate (t : TableRef) :
    (t.relocate place).children = Located.relocate place t.children := by
  cases t with
  | unpivot _ source _ _ groups _ =>
    have columns : (Located.relocate place groups).flatMap (fun group => columnNodes group.columns) =
        Located.relocate place (groups.flatMap fun group => columnNodes group.columns) :=
      relocate_flatMap place groups fun group => columnNodes_relocate place group.columns
    simp [TableRef.children, columns]
  | pivot _ source aggregates forColumn values _ =>
    have column := columnNodes_relocate place [forColumn]
    rw [relocate_cons, relocate_nil] at column
    simp only [TableRef.relocate, TableRef.children, relocate_append, NamedExpr.relocateList_eq,
      namedNodes_relocate, present_relocate, column]
  | _ => simp [TableRef.children, Node.relocate]

theorem WindowSpec.children_relocate (w : WindowSpec) :
    (w.relocate place).children = Located.relocate place w.children := by
  obtain ⟨_, _, partitionBy, orderBy, _, firstOffset, lastOffset⟩ := w
  simp [WindowSpec.children]

theorem SelectBlock.children_relocate (b : SelectBlock) :
    (b.relocate place).children = Located.relocate place b.children := by
  obtain ⟨_, _, _, items, source, filter, groupBy, having, windows, qualify, orderBy, _, limit,
    offset, _⟩ := b
  have sources : (Located.relocate place source).toList.map Node.source =
      Located.relocate place (source.toList.map .source) :=
    relocate_toList_map place source fun _ => rfl
  have specs : (Located.relocate place windows).map (fun window => Node.window window.spec) =
      Located.relocate place (windows.map fun window => Node.window window.spec) :=
    relocate_map place windows fun window => by cases window; rfl
  simp [SelectBlock.children, relocate_flatMap place items (SelectItem.nodes_relocate place), sources,
    specs]

/-- Moving the places of a node moves those of the nodes below it. -/
theorem Node.children_relocate (node : Node) :
    (node.relocate place).children = Located.relocate place node.children := by
  cases node with
  | query q =>
    obtain ⟨_, definitions, body⟩ := q
    cases definitions <;> rfl
  | definitions d =>
    obtain ⟨_, _, ctes⟩ := d
    rw [Node.relocate, WithClause.relocate, Cte.relocateList_eq]
    exact relocate_map place ctes fun _ => rfl
  | cte c =>
    obtain ⟨_, _, _, _, query⟩ := c
    cases query <;> rfl
  | body b =>
    cases b with
    | single _ operand => exact congrArg (fun node => [node]) (operand.node_relocate place)
    | combined _ left _ _ right => exact congrArg (fun node => [node, _]) (left.node_relocate place)
  | block b => exact b.children_relocate place
  | source s =>
    obtain ⟨_, source, joins⟩ := s
    have parts : (Located.relocate place joins).map Node.join =
        Located.relocate place (joins.map .join) := relocate_map place joins fun _ => rfl
    simp [Node.relocate, Node.children, parts]
  | join j =>
    obtain ⟨_, _, _, right, condition, columns⟩ := j
    simp [Node.relocate, Node.children]
  | table t => exact t.children_relocate place
  | window w => exact w.children_relocate place
  | expr e => exact e.children_relocate place

end Children

/-! ### Everything below a node -/

theorem Fixes.child {node below : Node} (fixes : Fixes place node) (member : below ∈ node.children) :
    Fixes place below := by
  have all : Fixes place node.children := by
    have moved := node.children_relocate place
    rw [show node.relocate place = node from fixes] at moved
    exact moved.symm
  exact all.mem member

theorem Fixes.items {block : SelectBlock} (fixes : Fixes place (Node.block block)) :
    Fixes place block.items := by
  obtain ⟨_, _, _, items, _, _, _, _, _, _, _, _, _, _, _⟩ := block
  exact (SelectItem.relocateList_eq place items).symm.trans
    (congrArg SelectBlock.items (Node.block.inj fixes))

theorem Fixes.itemNodes {item : SelectItem} (fixes : Fixes place item) : Fixes place item.nodes :=
  (item.nodes_relocate place).symm.trans (congrArg SelectItem.nodes fixes)

theorem Fixes.expr {expr : Expr} (fixes : ∀ node ∈ expr.present, Fixes place node) :
    Fixes place (Node.expr expr) := by
  cases expr with
  | missing => rfl
  | _ => exact fixes _ (List.mem_singleton_self _)

theorem Fixes.table {table : TableRef} (fixes : ∀ node ∈ table.present, Fixes place node) :
    Fixes place (Node.table table) := by
  cases table with
  | missing => rfl
  | _ => exact fixes _ (List.mem_singleton_self _)

theorem Fixes.walk {node below : Node} (enter : Node → Bool) (fixes : Fixes place node)
    (member : below ∈ node.walk enter) : Fixes place below := by
  rw [Node.walk_eq, List.mem_cons] at member
  rcases member with rfl | member
  · exact fixes
  · split at member
    · obtain ⟨child, listed, lower⟩ := List.mem_flatMap.1 member
      have := Node.size_lt_of_mem_children listed
      exact (fixes.child listed).walk enter lower
    · cases member
termination_by node.size

theorem Node.span_relocate (place : Position → Position) (node : Node) :
    node.span = {} ∨ (node.relocate place).span = node.span.relocate place := by
  cases node with
  | query q => cases q; exact .inr rfl
  | definitions d => cases d; exact .inr rfl
  | cte c => cases c; exact .inr rfl
  | body b => cases b <;> exact .inr rfl
  | block b => cases b; exact .inr rfl
  | source s => cases s; exact .inr rfl
  | join j => cases j; exact .inr rfl
  | table t =>
    cases t with
    | missing => exact .inl rfl
    | _ => exact .inr rfl
  | window w => cases w; exact .inr rfl
  | expr e =>
    cases e with
    | missing => exact .inl rfl
    | _ => exact .inr rfl

/-- Where the span begins is unset, or the map leaves it alone. -/
def Span.Kept (place : Position → Position) (span : Span) : Prop :=
  span.start = {} ∨ place span.start = span.start

theorem Fixes.kept {span : Span} (fixes : Fixes place span) : span.Kept place :=
  .inr (congrArg Span.start fixes)

theorem Fixes.span {node : Node} (fixes : Fixes place node) : node.span.Kept place := by
  rcases node.span_relocate place with missing | moved
  · rw [missing]
    exact .inl rfl
  · apply Fixes.kept
    rw [Fixes, relocate_span, ← moved, show node.relocate place = node from fixes]

end QueryLint
