import QueryLint.Proofs.Syntax.Unextended

/-!
The places of a syntax tree. A tree is taken apart into all its parts, those that are no nodes included;
a place is the way down to a part, as the numbers of the parts on the way. What a walk finds below a
node is what the parts of the node contribute (`Constituent.children_eq`), the parts that are no nodes
handing on what is in them.
-/

namespace QueryLint

/-- A part of a tree, whether it is visited on its own or not. -/
inductive Constituent where
  | query (query : Query)
  | definitions (definitions : WithClause)
  | cte (cte : Cte)
  | body (body : QueryBody)
  | operand (operand : Operand)
  | block (block : SelectBlock)
  | item (item : SelectItem)
  | modifier (modifier : StarModifier)
  | source (source : FromClause)
  | join (join : Join)
  | table (table : TableRef)
  | group (group : UnpivotGroup)
  | column (ref : ColumnRef)
  | window (window : WindowSpec)
  | namedWindow (window : NamedWindow)
  | expr (expr : Expr)
  | named (item : NamedExpr)
  | branch (branch : CaseBranch)
  | order (item : OrderItem)

def exprParts (exprs : List Expr) : List Constituent := exprs.map .expr

def optionParts (expr : Option Expr) : List Constituent := expr.toList.map .expr

def Expr.parts : Expr → List Constituent
  | .missing | .column _ | .literal _ | .star _ _ => []
  | .binary _ left _ right => [.expr left, .expr right]
  | .unary _ _ operand => [.expr operand]
  | .call _ arguments orderBy limit window =>
    exprParts arguments ++ orderBy.map .order ++ optionParts limit ++ window.toList.map .window
  | .case _ operand branches otherwise =>
    optionParts operand ++ branches.map .branch ++ optionParts otherwise
  | .cast _ operand _ _ => [.expr operand]
  | .inValues _ operand _ values => .expr operand :: exprParts values
  | .inQuery _ operand _ query => [.expr operand, .query query]
  | .inUnnest _ operand _ set => [.expr operand, .expr set]
  | .between _ operand _ low high => [.expr operand, .expr low, .expr high]
  | .isNull _ operand _ => [.expr operand]
  | .isBool _ operand _ _ => [.expr operand]
  | .like _ operand _ pattern => [.expr operand, .expr pattern]
  | .paren _ inner => [.expr inner]
  | .subquery _ query _ => [.query query]
  | .exists _ query => [.query query]
  | .struct _ _ fields => fields.map .named
  | .array _ _ elements => exprParts elements
  | .index _ operand place _ => [.expr operand, .expr place]
  | .field _ operand _ => [.expr operand]
  | .extract _ _ operand => [.expr operand]
  | .interval _ value _ _ => [.expr value]

def TableRef.parts : TableRef → List Constituent
  | .missing | .table _ => []
  | .derived _ query _ => [.query query]
  | .function _ call _ _ _ => [.expr call]
  | .pivot _ source aggregates forColumn values _ =>
    .table source :: aggregates.map .named ++ [.column forColumn] ++ values.map .named
  | .unpivot _ source _ _ groups _ => .table source :: groups.map .group

def SelectBlock.parts (block : SelectBlock) : List Constituent :=
  block.items.map .item ++ block.source.toList.map .source ++ optionParts block.filter ++
    exprParts block.groupBy ++ optionParts block.having ++ block.windows.map .namedWindow ++
    optionParts block.qualify ++ block.orderBy.map .order ++ optionParts block.limit ++
    optionParts block.offset ++ exprParts block.extensions

/-- Everything that a part is made of, in the order in which the tree has it. -/
def Constituent.parts : Constituent → List Constituent
  | .query q => q.definitions.toList.map .definitions ++ [.body q.body]
  | .definitions d => d.ctes.map .cte
  | .cte c => c.query.toList.map .query
  | .body (.single _ left) => [.operand left]
  | .body (.combined _ left _ _ right) => [.operand left, .body right]
  | .operand (.block b) => [.block b]
  | .operand (.nested q) => [.query q]
  | .block b => b.parts
  | .item (.star _ modifiers) | .item (.tableStar _ _ modifiers) => modifiers.map .modifier
  | .item (.expr _ e _ _) => [.expr e]
  | .modifier (.except _) => []
  | .modifier (.replace items) => items.map .named
  | .source s => .table s.source :: s.joins.map .join
  | .join j => .table j.right :: optionParts j.condition ++ j.columns.map .column
  | .table t => t.parts
  | .group g => g.columns.map .column
  | .column _ => []
  | .window w => exprParts w.partitionBy ++ w.orderBy.map .order ++ optionParts w.firstOffset ++
      optionParts w.lastOffset
  | .namedWindow w => [.window w.spec]
  | .expr e => e.parts
  | .named n => [.expr n.expr]
  | .branch b => [.expr b.condition, .expr b.result]
  | .order o => [.expr o.expr]

namespace Constituent

def node? : Constituent → Option Node
  | .query q => some (.query q)
  | .definitions d => some (.definitions d)
  | .cte c => some (.cte c)
  | .body b => some (.body b)
  | .block b => some (.block b)
  | .source s => some (.source s)
  | .join j => some (.join j)
  | .table .missing | .expr .missing => none
  | .table t => some (.table t)
  | .column ref => some (.expr (.column ref))
  | .window w => some (.window w)
  | .expr e => some (.expr e)
  | .operand _ | .item _ | .modifier _ | .group _ | .namedWindow _ | .named _ | .branch _ | .order _ =>
    none

def at? : Constituent → List Nat → Option Constituent
  | part, [] => some part
  | part, number :: rest => part.parts[number]?.bind (·.at? rest)

def nodeAt? (part : Constituent) (place : List Nat) : Option Node := (part.at? place).bind node?

/-- All nodes above a place are entered. -/
def Entered (enter : Node → Bool) (part : Constituent) (place : List Nat) : Prop :=
  ∀ above, above <+: place → above ≠ place → ∀ node ∈ part.nodeAt? above, enter node = true

/-! ### Parts are smaller -/

end Constituent

theorem sizeOf_lt_of_mem_listParts {α : Type} [SizeOf α] {list : List α} {wrap : α → Constituent}
    (wraps : ∀ a, sizeOf (wrap a) = 1 + sizeOf a) {part : Constituent} (member : part ∈ list.map wrap) :
    sizeOf part < 1 + sizeOf list := by
  obtain ⟨a, listed, rfl⟩ := List.mem_map.1 member
  have smaller := List.sizeOf_lt_of_mem listed
  rw [wraps]
  omega

theorem sizeOf_lt_of_mem_optionParts {α : Type} [SizeOf α] {option : Option α} {wrap : α → Constituent}
    (wraps : ∀ a, sizeOf (wrap a) = 1 + sizeOf a) {part : Constituent}
    (member : part ∈ option.toList.map wrap) : sizeOf part < 1 + sizeOf option := by
  obtain ⟨a, listed, rfl⟩ := List.mem_map.1 member
  cases Option.mem_toList.1 listed
  rw [wraps, Option.some.sizeOf_spec]
  omega

theorem SelectBlock.sizeOf_lt_of_mem_parts {block : SelectBlock} {part : Constituent}
    (member : part ∈ block.parts) : sizeOf part < 1 + sizeOf block := by
  cases block
  simp only [SelectBlock.parts, exprParts, optionParts, List.mem_append] at member
  simp only [SelectBlock.mk.sizeOf_spec]
  rcases member with (((((((((h | h) | h) | h) | h) | h) | h) | h) | h) | h) | h <;>
    first
    | have := sizeOf_lt_of_mem_listParts (by simp) h; omega
    | have := sizeOf_lt_of_mem_optionParts (by simp) h; omega

namespace Constituent

theorem sizeOf_lt_of_mem_parts {whole part : Constituent} (member : part ∈ whole.parts) :
    sizeOf part < sizeOf whole := by
  cases whole with
  | expr e =>
    cases e <;> simp only [parts, Expr.parts, exprParts, optionParts] at member <;>
      grind [→ List.sizeOf_lt_of_mem]
  | table t =>
    cases t <;> simp only [parts, TableRef.parts] at member <;> grind [→ List.sizeOf_lt_of_mem]
  | body b => cases b <;> simp only [parts] at member <;> grind
  | operand o => cases o <;> simp only [parts] at member <;> grind
  | item i =>
    cases i <;> simp only [parts] at member <;> grind [→ List.sizeOf_lt_of_mem]
  | modifier m => cases m <;> simp only [parts] at member <;> grind [→ List.sizeOf_lt_of_mem]
  | block b =>
    rw [block.sizeOf_spec]
    exact SelectBlock.sizeOf_lt_of_mem_parts member
  | query q => cases q; simp only [parts] at member; grind [→ List.sizeOf_lt_of_mem]
  | definitions d => cases d; simp only [parts] at member; grind [→ List.sizeOf_lt_of_mem]
  | cte c => cases c; simp only [parts] at member; grind [→ List.sizeOf_lt_of_mem]
  | source s => cases s; simp only [parts] at member; grind [→ List.sizeOf_lt_of_mem]
  | join j =>
    cases j; simp only [parts, optionParts] at member; grind [→ List.sizeOf_lt_of_mem]
  | group g => cases g; simp only [parts] at member; grind [→ List.sizeOf_lt_of_mem]
  | column ref => cases member
  | window w =>
    cases w; simp only [parts, exprParts, optionParts] at member; grind [→ List.sizeOf_lt_of_mem]
  | namedWindow w => cases w; simp only [parts] at member; grind
  | named n => cases n; simp only [parts] at member; grind
  | branch b => cases b; simp only [parts] at member; grind
  | order o => cases o; simp only [parts] at member; grind

/-! ### The nodes that a part contributes -/

/-- The nodes of a part that stand directly below the node that it belongs to. -/
def near : Constituent → List Node
  | .query q => [.query q]
  | .definitions d => [.definitions d]
  | .cte c => [.cte c]
  | .body b => [.body b]
  | .operand o => [o.node]
  | .block b => [.block b]
  | .item i => i.nodes
  | .modifier m => m.nodes
  | .source s => [.source s]
  | .join j => [.join j]
  | .table t => t.present
  | .group g => columnNodes g.columns
  | .column ref => [.expr (.column ref)]
  | .window w => [.window w]
  | .namedWindow w => [.window w.spec]
  | .expr e => e.present
  | .named n => n.expr.present
  | .branch b => b.condition.present ++ b.result.present
  | .order o => o.expr.present

theorem flatMap_near_exprParts (exprs : List Expr) : (exprParts exprs).flatMap near = exprNodes exprs := by
  rw [exprParts, List.flatMap_map]
  rfl

theorem flatMap_near_optionParts (expr : Option Expr) :
    (optionParts expr).flatMap near = optionNodes expr :=
  flatMap_near_exprParts expr.toList

/-- A part that is no node contributes what its own parts do. -/
theorem near_eq {part : Constituent} (absent : part.node? = none) :
    part.near = part.parts.flatMap near := by
  cases part with
  | expr e =>
    cases e with
    | missing => rfl
    | _ => cases absent
  | table t =>
    cases t with
    | missing => rfl
    | _ => cases absent
  | operand o => cases o <;> rfl
  | item i =>
    cases i with
    | expr => exact (List.append_nil _).symm
    | _ => rw [parts, List.flatMap_map]; rfl
  | modifier m =>
    cases m with
    | except => rfl
    | replace => rw [parts, List.flatMap_map]; rfl
  | group g => simp only [parts, near, List.flatMap_map, ← List.map_eq_flatMap, columnNodes]
  | namedWindow w => rfl
  | named n => exact (List.append_nil _).symm
  | branch b => simp only [parts, near, List.flatMap_cons, List.flatMap_nil, List.append_nil]
  | order o => exact (List.append_nil _).symm
  | query | definitions | cte | body | block | source | join | column | window => cases absent

theorem near_eq_singleton {part : Constituent} {node : Node} (found : part.node? = some node) :
    part.near = [node] := by
  cases part with
  | expr e => cases e <;> cases found <;> rfl
  | table t => cases t <;> cases found <;> rfl
  | _ => cases found <;> rfl

theorem expr_children_eq (e : Expr) : (Node.expr e).children = (expr e).parts.flatMap near := by
  rw [Node.children, parts]
  cases e <;>
    simp only [Expr.children, Expr.parts, flatMap_near_exprParts, flatMap_near_optionParts, near,
      List.flatMap_append, List.flatMap_map, List.flatMap_cons, List.flatMap_nil, List.append_nil,
      List.append_assoc, ← List.map_eq_flatMap, orderNodes, branchNodes, namedNodes]

theorem table_children_eq (t : TableRef) : (Node.table t).children = (table t).parts.flatMap near := by
  rw [Node.children, parts]
  cases t <;>
    simp only [TableRef.children, TableRef.parts, near, List.flatMap_append, List.flatMap_map,
      List.flatMap_cons, List.flatMap_nil, List.append_nil, List.append_assoc, columnNodes, namedNodes,
      List.map_cons, List.map_nil, List.cons_append, List.nil_append]

/-- Only what further clauses have read is part of a block and no node below it. -/
theorem block_children_eq {b : SelectBlock} (plain : b.extensions = []) :
    (Node.block b).children = (block b).parts.flatMap near := by
  simp only [Node.children, SelectBlock.children, parts, SelectBlock.parts, plain,
    flatMap_near_exprParts, flatMap_near_optionParts, near, List.flatMap_append, List.flatMap_map,
    ← List.map_eq_flatMap, orderNodes]
  exact (List.append_nil _).symm

/-- A walk goes from a node to what its parts contribute. -/
theorem children_eq {part : Constituent} {node : Node} (found : part.node? = some node)
    (plain : Unextended part.near) : node.children = part.parts.flatMap near := by
  cases part with
  | expr e => cases e <;> cases found <;> exact expr_children_eq _
  | table t => cases t <;> cases found <;> exact table_children_eq _
  | block b =>
    cases found
    exact block_children_eq plain.extensions
  | body b => cases b <;> cases found <;> rfl
  | query | definitions | cte | source | join | column | window =>
    cases found
    simp only [Node.children, parts, near, List.flatMap_append, List.flatMap_map, ← List.map_eq_flatMap,
      flatMap_near_exprParts, flatMap_near_optionParts, columnNodes, orderNodes,
      WindowSpec.children, Expr.children, List.flatMap_cons, List.flatMap_nil, List.append_nil]
  | operand | item | modifier | group | namedWindow | named | branch | order => cases found

theorem near_unextended {part below : Constituent} (plain : Unextended part.near)
    (member : below ∈ part.parts) : Unextended below.near := by
  have whole : Unextended (part.parts.flatMap near) := by
    cases found : part.node? with
    | none => rwa [near_eq found] at plain
    | some node =>
      rw [← children_eq found plain]
      rw [near_eq_singleton found] at plain
      exact plain.children
  exact fun node contributed => whole node (List.mem_flatMap.2 ⟨below, member, contributed⟩)

end Constituent

end QueryLint
