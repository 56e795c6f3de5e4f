import QueryLint.Syntax.Walk

/-!
Trees in which every clause has a place of its own. What a further clause has read is kept in a block
and is not visited, so that a walk reaches everything only where no block has such content. What a
parser ensures of its trees is said together with what it ensures of the names of tables.
-/

namespace QueryLint

namespace Node

theorem walk_eq (enter : Node → Bool) (node : Node) :
    node.walk enter = node :: if enter node then node.children.flatMap (·.walk enter) else [] := by
  rw [walk, List.flatMap_subtype (g := fun child => child.walk enter) fun _ _ => rfl,
    List.unattach_attach]

theorem mem_descendants_iff {node below : Node} :
    below ∈ node.descendants ↔
      below = node ∨ ∃ child ∈ node.children, below ∈ child.descendants := by
  rw [descendants, walk_eq, if_pos rfl, List.mem_cons, List.mem_flatMap]
  rfl

theorem mem_blocks_iff {node : Node} {block : SelectBlock} :
    block ∈ node.blocks ↔ .block block ∈ node.descendants := by
  simp only [blocks, List.mem_filterMap]
  constructor
  · rintro ⟨below, lower, found⟩
    cases below <;> cases found
    exact lower
  · exact fun lower => ⟨.block block, lower, rfl⟩

end Node

/-- No block at or below the nodes has read a clause that has no place of its own. -/
def Unextended (nodes : List Node) : Prop := ∀ node ∈ nodes, ∀ block ∈ node.blocks, block.extensions = []

namespace Unextended

variable {node : Node}

theorem children (holds : Unextended [node]) : Unextended node.children := by
  intro child member block found
  apply holds node (List.mem_singleton_self _)
  exact Node.mem_blocks_iff.2
    (Node.mem_descendants_of_mem_children member (Node.mem_blocks_iff.1 found))

theorem extensions {block : SelectBlock} (holds : Unextended [.block block]) : block.extensions = [] :=
  holds _ (List.mem_singleton_self _) block (Node.mem_blocks_iff.2 (Node.mem_descendants_self _))

end Unextended

/-! ### Trees without flaws -/

/-- What can be wrong with a node itself: a block has read a clause that has no place of its own, or
the name of a table is not as it should be. -/
inductive Node.Flawed (named : TableName → Prop) : Node → Prop where
  | block {block : SelectBlock} (extended : block.extensions ≠ []) : Flawed named (.block block)
  | table {table : TableName} (misnamed : ¬named table) : Flawed named (.table (.table table))

def Flawless (named : TableName → Prop) (nodes : List Node) : Prop :=
  ∀ node ∈ nodes, ∀ below ∈ node.descendants, ¬below.Flawed named

namespace Flawless

variable {named : TableName → Prop} {first second : List Node} {node : Node}

theorem unextended {nodes : List Node} (holds : Flawless named nodes) : Unextended nodes := by
  intro node member block found
  refine Classical.byContradiction fun extended => ?_
  exact holds node member _ (Node.mem_blocks_iff.1 found) (.block extended)

theorem names {nodes : List Node} (holds : Flawless named nodes) {table : TableName}
    (member : node ∈ nodes) (found : .table (.table table) ∈ node.descendants) : named table :=
  Classical.byContradiction fun misnamed => holds node member _ found (.table misnamed)

theorem nil : Flawless named [] := nofun

theorem append (left : Flawless named first) (right : Flawless named second) :
    Flawless named (first ++ second) := by
  intro node member
  rcases List.mem_append.1 member with before | after
  · exact left node before
  · exact right node after

theorem cons (head : Flawless named [node]) (tail : Flawless named second) :
    Flawless named (node :: second) :=
  head.append tail

theorem flatMap {α : Type} {list : List α} {nodes : α → List Node}
    (each : ∀ a ∈ list, Flawless named (nodes a)) : Flawless named (list.flatMap nodes) := by
  intro node member
  obtain ⟨a, listed, member⟩ := List.mem_flatMap.1 member
  exact each a listed node member

theorem map {α : Type} {list : List α} {node : α → Node}
    (each : ∀ a ∈ list, Flawless named [node a]) : Flawless named (list.map node) := by
  rw [List.map_eq_flatMap]
  exact flatMap each

theorem of_children (below : Flawless named node.children) (here : ¬node.Flawed named) :
    Flawless named [node] := by
  intro _ member lower found
  rw [List.mem_singleton.1 member, Node.mem_descendants_iff] at found
  rcases found with rfl | ⟨child, member, deeper⟩
  · exact here
  · exact below child member lower deeper

theorem children (holds : Flawless named [node]) : Flawless named node.children :=
  fun _ member below found =>
    holds node (List.mem_singleton_self _) below (Node.mem_descendants_of_mem_children member found)

/-! ### Parts of a tree -/

theorem block {block : SelectBlock} (below : Flawless named block.children)
    (plain : block.extensions = []) : Flawless named [.block block] :=
  of_children below fun | .block extended => extended plain

theorem expr {expr : Expr} (below : Flawless named expr.children) : Flawless named expr.present := by
  cases expr with
  | missing => exact nil
  | _ => exact of_children below nofun

theorem tableName {table : TableName} (holds : named table) :
    Flawless named (TableRef.table table).present :=
  of_children nil fun | .table misnamed => misnamed holds

theorem table {table : TableRef} (below : Flawless named table.children)
    (here : ¬(Node.table table).Flawed named) : Flawless named table.present := by
  cases table with
  | missing => exact nil
  | _ => exact of_children below here

theorem exprNodes {exprs : List Expr} (each : ∀ expr ∈ exprs, Flawless named expr.present) :
    Flawless named (exprNodes exprs) :=
  flatMap each

theorem optionNodes {expr : Option Expr} (each : ∀ e ∈ expr, Flawless named e.present) :
    Flawless named (optionNodes expr) :=
  exprNodes fun e listed => each e (Option.mem_toList.1 listed)

theorem optionMap {α : Type} {part : Option α} {node : α → Node}
    (each : ∀ a ∈ part, Flawless named [node a]) : Flawless named (part.toList.map node) :=
  map fun a listed => each a (Option.mem_toList.1 listed)

theorem columnNodes (columns : List ColumnRef) : Flawless named (columnNodes columns) :=
  map fun _ _ => of_children nil nofun

end Flawless

end QueryLint
