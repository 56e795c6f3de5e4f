import QueryLint.Syntax.Walk

/-!
What a tree keeps of its source. A few constructs are read and not put into the tree: the time zone
of `EXTRACT`, the format of a conversion, the moment after `FOR SYSTEM_TIME AS OF`, the value whose
fields `expr.*` stands for and what follows the argument of an accessor word. Everything else that
is read at an offset leaves a column reference there.
-/

namespace QueryLint

/-! ### Offsets that a node accounts for -/

/-- The source at an offset is a part of the node that has no place in the tree. -/
def Node.Drops (offset : Int) : Node → Prop
  | .expr (.extract span _ operand) | .expr (.cast span operand _ _) =>
    operand.span.stop.offset ≤ offset ∧ offset < span.stop.offset
  | .expr (.star span path) =>
    path = "" ∧ span.start.offset ≤ offset ∧ offset < span.stop.offset
  | .expr (.index span _ index mode) =>
    mode ≠ "" ∧ index.span.stop.offset ≤ offset ∧ offset < span.stop.offset
  | .table (.table name) => name.span.start.offset ≤ offset ∧ offset < name.span.stop.offset
  | _ => False

/-- A column reference of the node stands at an offset, or a node at or below it drops what stands
there. -/
def Node.Retains (offset : Int) (node : Node) : Prop :=
  ∃ below ∈ node.descendants, below.Drops offset ∨
    ∃ ref, below = .expr (.column ref) ∧ ref.span.start.offset = offset

def RetainedIn (offset : Int) (nodes : List Node) : Prop := ∃ node ∈ nodes, node.Retains offset

variable {offset : Int}

namespace Node.Retains

variable {node : Node}

theorem of_drops (drops : node.Drops offset) : node.Retains offset :=
  ⟨node, node.mem_descendants_self, .inl drops⟩

theorem of_column {ref : ColumnRef} (starts : ref.span.start.offset = offset) :
    (Node.expr (.column ref)).Retains offset :=
  ⟨_, Node.mem_descendants_self _, .inr ⟨ref, rfl, starts⟩⟩

theorem of_children (retained : RetainedIn offset node.children) : node.Retains offset := by
  obtain ⟨child, member, below, lower, kept⟩ := retained
  exact ⟨below, Node.mem_descendants_of_mem_children member lower, kept⟩

/-- What a node retains is a column reference of the tree or dropped in it. -/
theorem columnRef_or_drops (retains : node.Retains offset) :
    (∃ ref ∈ node.columnRefs, ref.span.start.offset = offset) ∨
      ∃ below ∈ node.descendants, below.Drops offset := by
  obtain ⟨below, lower, drops | ⟨ref, rfl, starts⟩⟩ := retains
  · exact .inr ⟨below, lower, drops⟩
  · exact .inl ⟨ref, List.mem_filterMap.2 ⟨_, lower, rfl⟩, starts⟩

end Node.Retains

/-! ### Lists of nodes -/

@[simp] theorem retainedIn_nil : ¬ RetainedIn offset [] := by
  rintro ⟨_, impossible, _⟩
  cases impossible

@[simp] theorem retainedIn_cons {node : Node} {nodes : List Node} :
    RetainedIn offset (node :: nodes) ↔ node.Retains offset ∨ RetainedIn offset nodes := by
  simp only [RetainedIn, List.mem_cons, or_and_right, exists_or, exists_eq_left]

@[simp] theorem retainedIn_append {first second : List Node} :
    RetainedIn offset (first ++ second) ↔ RetainedIn offset first ∨ RetainedIn offset second := by
  simp only [RetainedIn, List.mem_append, or_and_right, exists_or]

theorem retainedIn_flatMap {α : Type} {list : List α} {nodes : α → List Node} :
    RetainedIn offset (list.flatMap nodes) ↔ ∃ a ∈ list, RetainedIn offset (nodes a) := by
  constructor
  · rintro ⟨node, member, retains⟩
    obtain ⟨a, listed, member⟩ := List.mem_flatMap.1 member
    exact ⟨a, listed, node, member, retains⟩
  · rintro ⟨a, listed, node, member, retains⟩
    exact ⟨node, List.mem_flatMap.2 ⟨a, listed, member⟩, retains⟩

@[simp] theorem retainedIn_map {α : Type} {list : List α} {node : α → Node} :
    RetainedIn offset (list.map node) ↔ ∃ a ∈ list, (node a).Retains offset := by
  rw [List.map_eq_flatMap, retainedIn_flatMap]
  simp only [retainedIn_cons, retainedIn_nil, or_false]

@[simp] theorem retainedIn_exprNodes {exprs : List Expr} :
    RetainedIn offset (exprNodes exprs) ↔ ∃ e ∈ exprs, RetainedIn offset e.present :=
  retainedIn_flatMap

@[simp] theorem retainedIn_optionNodes {expr : Option Expr} :
    RetainedIn offset (optionNodes expr) ↔ ∃ e ∈ expr, RetainedIn offset e.present := by
  simp only [optionNodes, retainedIn_exprNodes, Option.mem_toList, Option.mem_def]

@[simp] theorem retainedIn_orderNodes {items : List OrderItem} :
    RetainedIn offset (orderNodes items) ↔ ∃ item ∈ items, RetainedIn offset item.expr.present :=
  retainedIn_flatMap

@[simp] theorem retainedIn_namedNodes {items : List NamedExpr} :
    RetainedIn offset (namedNodes items) ↔ ∃ item ∈ items, RetainedIn offset item.expr.present :=
  retainedIn_flatMap

@[simp] theorem retainedIn_branchNodes {branches : List CaseBranch} :
    RetainedIn offset (branchNodes branches) ↔ ∃ branch ∈ branches,
      RetainedIn offset branch.condition.present ∨ RetainedIn offset branch.result.present := by
  simp only [branchNodes, retainedIn_flatMap, retainedIn_append]

/-! ### Expressions -/

def Expr.onlyArgument? : Expr → Option Expr
  | .call _ [argument] _ _ _ => some argument
  | _ => none

/-- An expression accounts for an offset. A call does so also when an accessor word is seen in it
and only its argument is kept: the offset is that of the argument or of something after it. -/
structure Expr.Retained (offset : Int) (e : Expr) : Prop where
  kept : RetainedIn offset e.present
  argument : ∀ argument ∈ e.onlyArgument?,
    RetainedIn offset argument.present ∨ argument.span.stop.offset ≤ offset

namespace Expr.Retained

variable {e : Expr}

theorem present (retained : e.Retained offset) : e.isMissing = false := by
  cases e with
  | missing => exact absurd retained.kept retainedIn_nil
  | _ => rfl

theorem of_node (retains : (Node.expr e).Retains offset) (present : e ≠ .missing)
    (other : e.onlyArgument? = none) : e.Retained offset := by
  refine ⟨?_, fun argument member => ?_⟩
  · have there : e.present = [.expr e] := by
      cases e with
      | missing => exact absurd rfl present
      | _ => rfl
    rw [there]
    exact retainedIn_cons.2 (.inl retains)
  · rw [other] at member
    cases member

theorem of_drops (drops : (Node.expr e).Drops offset) (other : e.onlyArgument? = none) :
    e.Retained offset := by
  refine of_node (.of_drops drops) ?_ other
  rintro rfl
  exact drops

theorem of_children (retained : RetainedIn offset e.children) (other : e.onlyArgument? = none) :
    e.Retained offset := by
  refine of_node (.of_children retained) ?_ other
  rintro rfl
  exact retainedIn_nil retained

end Expr.Retained

end QueryLint
