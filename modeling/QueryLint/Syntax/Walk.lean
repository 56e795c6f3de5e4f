import QueryLint.Syntax.Node

/-!
Walking a syntax tree. `Node.walk` lists a node and everything below it, parents before children
and children from left to right, without going below nodes that `enter` refuses. What rules look
for in a tree is a filter of such a walk.
-/

namespace QueryLint

namespace Node

/-- A node and the nodes below it, in the order in which they are visited. A node that is not
entered is listed without the nodes below it. -/
def walk (enter : Node → Bool) (node : Node) : List Node :=
  node :: if enter node then node.children.attach.flatMap fun ⟨child, _⟩ => child.walk enter else []
termination_by node.size
decreasing_by exact size_lt_of_mem_children ‹_›

def descendants (node : Node) : List Node := node.walk fun _ => true

theorem mem_descendants_self (node : Node) : node ∈ node.descendants := by
  unfold descendants walk
  exact List.mem_cons_self ..

theorem mem_descendants_of_mem_children {node child below : Node} (member : child ∈ node.children)
    (lower : below ∈ child.descendants) : below ∈ node.descendants := by
  unfold descendants walk
  simp only [if_true, List.mem_cons, List.mem_flatMap, List.mem_attach, true_and, Subtype.exists]
  exact .inr ⟨child, member, lower⟩

def columnRef? : Node → Option ColumnRef
  | .expr (.column ref) => some ref
  | _ => none

def callHead? : Node → Option CallHead
  | .expr (.call head ..) => some head
  | _ => none

def block? : Node → Option SelectBlock
  | .block b => some b
  | _ => none

def columnRefs (node : Node) : List ColumnRef := node.descendants.filterMap columnRef?

def callHeads (node : Node) : List CallHead := node.descendants.filterMap callHead?

def blocks (node : Node) : List SelectBlock := node.descendants.filterMap block?

end Node

namespace Query

/-- The select blocks of a query, those of definitions, operands and subqueries included. -/
def blocks (query : Query) : List SelectBlock := (Node.query query).blocks

/-- The leftmost select block that produces rows of the query. -/
def firstBlock (query : Query) : SelectBlock :=
  match query with
  | ⟨_, _, .single _ (.block block)⟩ => block
  | ⟨_, _, .single _ (.nested inner)⟩ => inner.firstBlock
  | ⟨_, _, .combined _ (.block block) _ _ _⟩ => block
  | ⟨_, _, .combined _ (.nested inner) _ _ _⟩ => inner.firstBlock
termination_by sizeOf query

end Query

namespace QueryBody

def operands (body : QueryBody) : List Operand :=
  match body with
  | .single _ operand => [operand]
  | .combined _ left _ _ right => left :: right.operands
termination_by sizeOf body

/-- The operands of a body that are select blocks, in source order. -/
def blocks (body : QueryBody) : List SelectBlock :=
  body.operands.filterMap fun
    | .block block => some block
    | .nested _ => none

end QueryBody

namespace Expr

def unwrap (expr : Expr) : Expr :=
  match expr with
  | .paren _ inner => inner.unwrap
  | bare => bare
termination_by sizeOf expr

theorem unwrap_ne_paren (expr : Expr) (span : Span) (inner : Expr) : expr.unwrap ≠ .paren span inner := by
  fun_induction unwrap expr with
  | case1 _ _ ih => exact ih
  | case2 bare other => exact other span inner

end Expr

/-- Whether only some of the rows are kept by number. -/
def SelectBlock.hasLimit (block : SelectBlock) : Bool := block.limit.isSome || block.offset.isSome

def SelectItem.isStar : SelectItem → Bool
  | .star .. | .tableStar .. => true
  | .expr .. => false

/-- The name that a source binds, empty if it has none. -/
def TableRef.exposedName : TableRef → String
  | .missing => ""
  | .table t => t.exposedName
  | .derived _ _ aliasName | .function _ _ aliasName _ _ | .pivot _ _ _ _ _ aliasName
  | .unpivot _ _ _ _ _ aliasName => aliasName

end QueryLint
