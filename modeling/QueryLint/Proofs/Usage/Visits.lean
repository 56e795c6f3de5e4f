import Mathlib.Logic.Relation
import QueryLint.Proofs.Usage.Outline

/-!
Where the pass over a statement goes. A node is visited with a turn, which says whether the order
of its rows can be observed; the ordering of a block is visited only if it can, or if the block
keeps some of its rows by number. The references that an outline reads are those at which such
visits end, and the paths of sources.
-/

namespace QueryLint.Usage

/-- How a query, a body or a block is visited: whether the order of its rows can be observed, and
for a body whether it is the first one of its query. -/
structure Turn where
  final : Bool
  first : Bool := true
deriving DecidableEq, Repr, Inhabited

namespace Turn

def outermost : Turn := { final := true }

def unordered : Turn := { final := false }

end Turn

/-- The nodes that are visited directly from a node, with their turns. -/
def visitedBelow (turn : Turn) : Node → List (Turn × Node)
  | .query query =>
    query.definitions.toList.map (fun definitions => (.unordered, .definitions definitions)) ++
      [({ final := turn.final }, .body query.body)]
  | .body (.single _ (.block block)) => [({ final := turn.final }, .block block)]
  | .body (.single _ (.nested query)) => [({ final := turn.final && turn.first }, .query query)]
  | .body (.combined _ (.block block) _ _ right) =>
    [({ final := turn.final }, .block block), ({ final := turn.final, first := false }, .body right)]
  | .body (.combined _ (.nested query) _ _ right) =>
    [(.unordered, .query query), ({ final := turn.final, first := false }, .body right)]
  | .block block =>
    (block.source.toList.map Node.source ++ clauseNodes block (turn.final || block.hasLimit) ++
      block.items.flatMap SelectItem.nodes).map (.unordered, ·)
  | .expr (.subquery _ query array) => [({ final := array }, .query query)]
  | node => node.children.map (.unordered, ·)

theorem mem_children_of_mem_visitedBelow {turn turn' : Turn} {node child : Node}
    (member : (turn', child) ∈ visitedBelow turn node) : child ∈ node.children := by
  unfold visitedBelow at member
  split at member
  all_goals simp only [Node.children, Operand.node, Expr.children] at member ⊢
  case h_6 block =>
    obtain ⟨_, listed, same⟩ := List.mem_map.1 member
    cases same
    unfold SelectBlock.children
    unfold clauseNodes at listed
    simp only [List.mem_append] at listed ⊢
    grind
  all_goals grind

/-- What is visited below a node, at any depth. -/
def Visits : Turn × Node → Turn × Node → Prop :=
  Relation.ReflTransGen fun above below => below ∈ visitedBelow above.1 above.2

/-! ### References of outlines -/

namespace Outline

def Refers (outline : Outline) (ref : ColumnRef) : Prop :=
  ∃ chain, Site.reference chain ref ∈ outline.sites

variable {ref : ColumnRef}

@[simp] theorem refers_append {a b : Outline} :
    (a ++ b).Refers ref ↔ a.Refers ref ∨ b.Refers ref := by
  simp only [Refers, sites_append, List.mem_append, exists_or]

@[simp] theorem not_refers_empty : ¬({} : Outline).Refers ref := by
  simp [Refers]

@[simp] theorem not_refers_made {made : List Made} : ¬({ made } : Outline).Refers ref := by
  simp [Refers]

@[simp] theorem refers_reference {chain : ScopeChain} {other : ColumnRef} :
    (readAll [.reference chain other]).Refers ref ↔ ref = other := by
  simp [Refers]

@[simp] theorem not_refers_star {chain : ScopeChain} {table : String}
    {excepted replaced : List String} :
    ¬(readAll [.star chain table excepted replaced]).Refers ref := by
  simp [Refers]

@[simp] theorem not_refers_whole {scope : Scope} : ¬(readAll [.whole scope]).Refers ref := by
  simp [Refers]

@[simp] theorem refers_references {chain : ScopeChain} {columns : List ColumnRef} :
    (readAll (columns.map (.reference chain))).Refers ref ↔ ref ∈ columns := by
  simp [Refers]

section Sequences

variable {α : Type} {part : α → Model → Outline} {parts : List α} {entry : α}

theorem refers_sequence (member : entry ∈ parts) (reads : ∀ known, (part entry known).Refers ref)
    (known : Model) : (sequence part parts known).Refers ref := by
  induction parts generalizing known with
  | nil => cases member
  | cons first rest ih =>
    rw [sequence, refers_append]
    rcases List.mem_cons.1 member with rfl | later
    · exact .inl (reads known)
    · exact .inr (ih later _)

theorem Refers.of_sequence {known : Model} (reads : (sequence part parts known).Refers ref) :
    ∃ entry ∈ parts, ∃ known, (part entry known).Refers ref := by
  induction parts generalizing known with
  | nil => exact absurd reads not_refers_empty
  | cons first rest ih =>
    rw [sequence, refers_append] at reads
    rcases reads with own | later
    · exact ⟨first, List.mem_cons_self, known, own⟩
    · obtain ⟨entry, member, found⟩ := ih later
      exact ⟨entry, List.mem_cons_of_mem _ member, found⟩

end Sequences

end Outline

/-! ### The outline of a visit -/

/-- The scopes around a node, the scope of the sources before it and what is known there. -/
structure Surroundings where
  chain : ScopeChain
  scope : Scope
  known : Model

def outlineOf (turn : Turn) (node : Node) (around : Surroundings) : Outline :=
  match node with
  | .query query => (outlineQuery around.chain turn.final query around.known).1
  | .definitions definitions => (outlineCtes definitions.ctes around.known).1
  | .cte cte => cte.query.elim {} fun query => (outlineQuery [] false query around.known).1
  | .body body => (outlineBody around.chain turn.final turn.first body around.known).1
  | .block block => (outlineBlock around.chain turn.final block around.known).1
  | .source source => (outlineSources around.chain source around.known).1
  | .join join =>
    let (source, scope) := outlineSource around.chain around.scope join.right around.known
    source ++ Outline.sequence (outlineNode (scope :: around.chain))
      (optionNodes join.condition ++ columnNodes join.columns) (around.known.after source)
  | .table table => (outlineSource around.chain around.scope table around.known).1
  | .window window => outlineNode around.chain (.window window) around.known
  | .expr expr => outlineNode around.chain (.expr expr) around.known

def isRead : Node → Bool
  | .expr _ | .window _ | .query _ => true
  | _ => false

section Read

variable {node : Node}

theorem outlineOf_read (read : isRead node = true) (around : Surroundings) :
    outlineOf .unordered node around = outlineNode around.chain node around.known := by
  cases node with
  | query query => rw [outlineNode]; rfl
  | expr | window => rfl
  | _ => cases read

theorem isRead_of_mem_present {expr : Expr} (member : node ∈ expr.present) :
    isRead node = true := by
  rw [Expr.eq_of_mem_present member]
  rfl

theorem isRead_of_mem_exprNodes {exprs : List Expr} (member : node ∈ exprNodes exprs) :
    isRead node = true := by
  obtain ⟨_, _, member⟩ := List.mem_flatMap.1 member
  exact isRead_of_mem_present member

theorem isRead_of_mem_orderNodes {items : List OrderItem} (member : node ∈ orderNodes items) :
    isRead node = true := by
  obtain ⟨_, _, member⟩ := List.mem_flatMap.1 member
  exact isRead_of_mem_present member

theorem isRead_of_mem_namedNodes {items : List NamedExpr} (member : node ∈ namedNodes items) :
    isRead node = true := by
  obtain ⟨_, _, member⟩ := List.mem_flatMap.1 member
  exact isRead_of_mem_present member

theorem isRead_of_mem_branchNodes {branches : List CaseBranch} (member : node ∈ branchNodes branches) :
    isRead node = true := by
  obtain ⟨_, _, member⟩ := List.mem_flatMap.1 member
  exact (List.mem_append.1 member).elim isRead_of_mem_present isRead_of_mem_present

theorem isRead_of_mem_columnNodes {columns : List ColumnRef} (member : node ∈ columnNodes columns) :
    isRead node = true := by
  obtain ⟨_, _, rfl⟩ := List.mem_map.1 member
  rfl

theorem isRead_of_mem_clauseNodes {block : SelectBlock} {ordered : Bool}
    (member : node ∈ clauseNodes block ordered) : isRead node = true := by
  unfold clauseNodes optionNodes at member
  grind [isRead_of_mem_exprNodes, isRead_of_mem_orderNodes, isRead]

theorem isRead_of_mem_pivotNodes {aggregates : List NamedExpr} {forColumn : ColumnRef}
    {values : List NamedExpr} (member : node ∈ pivotNodes aggregates forColumn values) :
    isRead node = true := by
  unfold pivotNodes at member
  grind [isRead_of_mem_namedNodes, isRead_of_mem_columnNodes]

theorem isRead_of_mem_modifierNodes {modifiers : List StarModifier}
    (member : node ∈ modifiers.flatMap StarModifier.nodes) : isRead node = true := by
  obtain ⟨modifier, _, member⟩ := List.mem_flatMap.1 member
  cases modifier with
  | except => cases member
  | replace => exact isRead_of_mem_namedNodes member

theorem isRead_of_mem_itemNodes {items : List SelectItem}
    (member : node ∈ items.flatMap SelectItem.nodes) : isRead node = true := by
  obtain ⟨item, _, member⟩ := List.mem_flatMap.1 member
  cases item with
  | expr => exact isRead_of_mem_present member
  | star | tableStar => exact isRead_of_mem_modifierNodes member

theorem isRead_of_mem_children {parent : Node} (scalar : ∀ query, parent ≠ .query query)
    (read : isRead parent = true) (member : node ∈ parent.children) :
    isRead node = true := by
  cases parent with
  | query query => exact absurd rfl (scalar query)
  | window window =>
    simp only [Node.children, WindowSpec.children, optionNodes] at member
    grind [isRead_of_mem_exprNodes, isRead_of_mem_orderNodes]
  | expr expr =>
    cases expr
    all_goals
      simp only [Node.children, Expr.children, optionNodes] at member
      grind [isRead_of_mem_present, isRead_of_mem_exprNodes, isRead_of_mem_orderNodes,
        isRead_of_mem_namedNodes, isRead_of_mem_branchNodes, isRead]
  | _ => cases read

end Read

section Parts

open Outline

variable {ref : ColumnRef}

theorem refers_outlineCtes {cte : Cte} {ctes : List Cte} (member : cte ∈ ctes)
    (reads : ∀ around, (outlineOf .unordered (.cte cte) around).Refers ref) (known : Model) :
    (outlineCtes ctes known).1.Refers ref := by
  induction ctes generalizing known with
  | nil => cases member
  | cons first rest ih =>
    obtain ⟨span, name, nameSpan, names, query⟩ := first
    rcases List.mem_cons.1 member with rfl | later
    · have own := reads ⟨[], [], known⟩
      cases query with
      | none => exact absurd own Outline.not_refers_empty
      | some query => simpa [outlineCtes] using .inl own
    · cases query with
      | none => simpa [outlineCtes] using ih later _
      | some query => simpa [outlineCtes] using .inr (ih later _)

theorem Outline.Refers.of_ctes {ctes : List Cte} {known : Model}
    (reads : (outlineCtes ctes known).1.Refers ref) :
    ∃ cte ∈ ctes, ∃ around, (outlineOf .unordered (.cte cte) around).Refers ref := by
  induction ctes generalizing known with
  | nil => simp [outlineCtes] at reads
  | cons first rest ih =>
    have further {known : Model} (reads : (outlineCtes rest known).1.Refers ref) :
        ∃ cte ∈ first :: rest, ∃ around, (outlineOf .unordered (.cte cte) around).Refers ref := by
      obtain ⟨cte, member, found⟩ := ih reads
      exact ⟨cte, List.mem_cons_of_mem _ member, found⟩
    obtain ⟨span, name, nameSpan, names, query⟩ := first
    cases query with
    | none =>
      simp only [outlineCtes, refers_append, not_refers_made, false_or] at reads
      exact further reads
    | some query =>
      simp only [outlineCtes, refers_append, not_refers_made, or_false] at reads
      rcases reads with own | later
      · exact ⟨_, List.mem_cons_self, ⟨[], [], known⟩, own⟩
      · exact further later

theorem refers_outlineJoins {join : Join} {joins : List Join} (member : join ∈ joins)
    (reads : ∀ around, (outlineOf .unordered (.join join) around).Refers ref) (chain : ScopeChain)
    (scope : Scope) (known : Model) : (outlineJoins chain scope joins known).1.Refers ref := by
  induction joins generalizing scope known with
  | nil => cases member
  | cons first rest ih =>
    rw [outlineJoins_cons]
    rcases List.mem_cons.1 member with rfl | later
    · exact Outline.refers_append.2 (.inl (reads ⟨chain, scope, known⟩))
    · exact Outline.refers_append.2 (.inr (ih later _ _))

theorem Outline.Refers.of_joins {chain : ScopeChain} {joins : List Join} {scope : Scope}
    {known : Model} (reads : (outlineJoins chain scope joins known).1.Refers ref) :
    ∃ join ∈ joins, ∃ around, (outlineOf .unordered (.join join) around).Refers ref := by
  induction joins generalizing scope known with
  | nil => simp [outlineJoins] at reads
  | cons first rest ih =>
    rw [outlineJoins_cons] at reads
    rcases Outline.refers_append.1 reads with own | later
    · exact ⟨first, List.mem_cons_self, ⟨chain, scope, known⟩, own⟩
    · obtain ⟨join, member, found⟩ := ih later
      exact ⟨join, List.mem_cons_of_mem _ member, found⟩

theorem refers_outlineItems {node : Node} {items : List SelectItem}
    (member : node ∈ items.flatMap SelectItem.nodes) {chain : ScopeChain}
    (reads : ∀ known, (outlineNode chain node known).Refers ref) (anonymous : Nat)
    (known : Model) : (outlineItems chain items anonymous known).1.Refers ref := by
  induction items generalizing anonymous known with
  | nil => cases member
  | cons first rest ih =>
    rw [List.flatMap_cons, List.mem_append] at member
    cases first with
    | expr _ expr _ _ =>
      simp only [outlineItems, refers_append]
      refine member.imp (fun own => ?_) fun later => ih later _ _
      rw [Expr.eq_of_mem_present own] at reads
      exact reads known
    | star | tableStar =>
      simp only [outlineItems, outlineStar_eq, refers_append, not_refers_star, or_false]
      exact member.imp (fun own => refers_sequence own reads known) fun later => ih later _ _

theorem mem_present_of_refers {chain : ScopeChain} {expr : Expr} {known : Model}
    (reads : (outlineNode chain (.expr expr) known).Refers ref) : .expr expr ∈ expr.present := by
  cases expr with
  | missing =>
    rw [outlineNode_children (by simp) (by simp) (by simp)] at reads
    exact absurd reads Outline.not_refers_empty
  | _ => exact List.mem_singleton_self _

theorem mem_present_of_source {chain : ScopeChain} {scope : Scope} {table : TableRef} {known : Model}
    (reads : (outlineSource chain scope table known).1.Refers ref) : .table table ∈ table.present := by
  cases table with
  | missing => simp [outlineSource] at reads
  | _ => exact List.mem_singleton_self _

theorem Outline.Refers.of_nodes {chain : ScopeChain} {nodes : List Node} {known : Model}
    (reads : (sequence (outlineNode chain) nodes known).Refers ref)
    (read : ∀ node ∈ nodes, isRead node = true) :
    ∃ node ∈ nodes, ∃ around, (outlineOf .unordered node around).Refers ref := by
  obtain ⟨node, listed, known, found⟩ := reads.of_sequence
  refine ⟨node, listed, ⟨chain, [], known⟩, ?_⟩
  rw [outlineOf_read (read node listed)]
  exact found

theorem Outline.Refers.of_items {chain : ScopeChain} {items : List SelectItem} {anonymous : Nat}
    {known : Model} (reads : (outlineItems chain items anonymous known).1.Refers ref) :
    ∃ node ∈ items.flatMap SelectItem.nodes,
      ∃ around, (outlineOf .unordered node around).Refers ref := by
  induction items generalizing anonymous known with
  | nil => simp [outlineItems] at reads
  | cons first rest ih =>
    simp only [List.flatMap_cons, List.mem_append, or_and_right, exists_or]
    cases first with
    | expr _ expr _ _ =>
      simp only [outlineItems, refers_append] at reads
      exact reads.imp (fun own => ⟨_, mem_present_of_refers own, ⟨chain, [], known⟩, own⟩) ih
    | star | tableStar =>
      simp only [outlineItems, outlineStar_eq, refers_append, not_refers_star, or_false] at reads
      exact reads.imp (·.of_nodes fun _ => isRead_of_mem_modifierNodes) ih

theorem outlineWith_some (definitions : WithClause) (known : Model) :
    outlineWith (some definitions) known = outlineCtes definitions.ctes known := by
  cases definitions
  rw [outlineWith]

theorem mem_map_unordered {turn : Turn} {node : Node} {nodes : List Node} :
    (turn, node) ∈ nodes.map (Turn.unordered, ·) ↔ turn = .unordered ∧ node ∈ nodes := by
  simp only [List.mem_map, Prod.mk.injEq]
  exact ⟨fun ⟨_, listed, same, rfl⟩ => ⟨same.symm, listed⟩,
    fun ⟨same, listed⟩ => ⟨node, listed, same.symm, rfl⟩⟩

/-- What all visits of a node further down read is read here. -/
theorem refers_of_visitedBelow {turn turn' : Turn} {node child : Node}
    (member : (turn', child) ∈ visitedBelow turn node)
    (reads : ∀ around, (outlineOf turn' child around).Refers ref) (around : Surroundings) :
    (outlineOf turn node around).Refers ref := by
  obtain ⟨chain, scope, known⟩ := around
  cases node with
  | query query =>
    obtain ⟨_, definitions, body⟩ := query
    simp only [visitedBelow, List.mem_append, List.mem_map, Option.mem_toList, Prod.mk.injEq,
      List.mem_singleton] at member
    simp only [outlineOf, outlineQuery, refers_append]
    rcases member with ⟨_, rfl, rfl, rfl⟩ | ⟨rfl, rfl⟩
    · rw [outlineWith_some]
      exact .inl (reads ⟨chain, scope, known⟩)
    · exact .inr (reads ⟨chain, scope, _⟩)
  | definitions definitions =>
    obtain ⟨rfl, listed⟩ := mem_map_unordered.1 member
    obtain ⟨cte, own, rfl⟩ := List.mem_map.1 listed
    exact refers_outlineCtes own reads known
  | cte cte =>
    obtain ⟨_, _, _, _, query⟩ := cte
    obtain ⟨rfl, listed⟩ := mem_map_unordered.1 member
    obtain ⟨query, found, rfl⟩ := List.mem_map.1 listed
    obtain rfl := Option.mem_toList.1 found
    exact reads ⟨[], scope, known⟩
  | body body =>
    rcases body with ⟨_, block | query⟩ | ⟨_, block | query, _, _, right⟩
    all_goals simp only [visitedBelow, List.mem_cons, List.not_mem_nil, or_false, Prod.mk.injEq] at member
    all_goals simp only [outlineOf, outlineBody, refers_append]
    · obtain ⟨rfl, rfl⟩ := member
      exact reads ⟨chain, scope, known⟩
    · obtain ⟨rfl, rfl⟩ := member
      exact reads ⟨chain, scope, known⟩
    · rcases member with ⟨rfl, rfl⟩ | ⟨rfl, rfl⟩
      · exact .inl (reads ⟨chain, scope, known⟩)
      · exact .inr (reads ⟨chain, scope, _⟩)
    · rcases member with ⟨rfl, rfl⟩ | ⟨rfl, rfl⟩
      · exact .inl (reads ⟨chain, scope, known⟩)
      · exact .inr (reads ⟨chain, scope, _⟩)
  | block block =>
    obtain ⟨rfl, listed⟩ := mem_map_unordered.1 member
    simp only [outlineOf, outlineBlock_eq, refers_append]
    rcases List.mem_append.1 listed with listed | listed
    · rcases List.mem_append.1 listed with listed | listed
      · obtain ⟨source, found, rfl⟩ := List.mem_map.1 listed
        rw [Option.mem_toList] at found
        rw [found]
        exact .inl (.inl (reads ⟨chain, scope, known⟩))
      · simp only [outlineOf_read (isRead_of_mem_clauseNodes listed)] at reads
        exact .inl (.inr (refers_sequence listed (fun known => reads ⟨_, scope, known⟩) _))
    · simp only [outlineOf_read (isRead_of_mem_itemNodes listed)] at reads
      exact .inr (refers_outlineItems listed (fun known => reads ⟨_, scope, known⟩) _ _)
  | source source =>
    obtain ⟨_, first, joins⟩ := source
    obtain ⟨rfl, listed⟩ := mem_map_unordered.1 member
    simp only [outlineOf, outlineSources, refers_append]
    rcases List.mem_append.1 listed with listed | listed
    · rw [TableRef.eq_of_mem_present listed] at reads
      exact .inl (reads ⟨chain, [], known⟩)
    · obtain ⟨join, own, rfl⟩ := List.mem_map.1 listed
      exact .inr (refers_outlineJoins own reads _ _ _)
  | join join =>
    obtain ⟨rfl, listed⟩ := mem_map_unordered.1 member
    simp only [Node.children, List.append_assoc] at listed
    simp only [outlineOf, refers_append]
    rcases List.mem_append.1 listed with listed | listed
    · rw [TableRef.eq_of_mem_present listed] at reads
      exact .inl (reads ⟨chain, scope, known⟩)
    · have read := (List.mem_append.1 listed).elim isRead_of_mem_exprNodes isRead_of_mem_columnNodes
      simp only [outlineOf_read read] at reads
      exact .inr (refers_sequence listed (fun known => reads ⟨_, scope, known⟩) _)
  | table table =>
    obtain ⟨rfl, listed⟩ := mem_map_unordered.1 member
    cases table with
    | missing | table => cases listed
    | derived _ query _ =>
      obtain rfl := List.mem_singleton.1 listed
      simp only [outlineOf, outlineSource]
      exact reads ⟨scope :: chain, scope, known⟩
    | function _ call _ _ _ =>
      rw [Expr.eq_of_mem_present listed] at reads
      simp only [outlineOf, outlineSource]
      exact reads ⟨scope :: chain, scope, known⟩
    | pivot _ inner aggregates forColumn values _ =>
      simp only [Node.children, TableRef.children, List.append_assoc] at listed
      simp only [outlineOf, outlineSource_pivot, refers_append]
      rcases List.mem_append.1 listed with listed | listed
      · rw [TableRef.eq_of_mem_present listed] at reads
        exact .inl (.inl (reads ⟨scope :: chain, [], known⟩))
      · rw [← List.append_assoc] at listed
        simp only [outlineOf_read (isRead_of_mem_pivotNodes listed)] at reads
        exact .inl (.inr (refers_sequence listed (fun known => reads ⟨_, scope, known⟩) _))
    | unpivot _ inner _ _ groups _ =>
      simp only [outlineOf, outlineSource, refers_append, refers_references]
      rcases List.mem_append.1 listed with listed | listed
      · rw [TableRef.eq_of_mem_present listed] at reads
        exact .inl (.inl (reads ⟨scope :: chain, [], known⟩))
      · simp only [List.mem_flatMap, columnNodes, List.mem_map] at listed
        obtain ⟨group, grouped, other, own, rfl⟩ := listed
        have same := reads ⟨chain, scope, known⟩
        simp only [outlineOf, outlineNode, refers_reference] at same
        rw [same]
        exact .inl (.inr (List.mem_flatMap.2 ⟨group, grouped, own⟩))
  | window window =>
    obtain ⟨rfl, listed⟩ := mem_map_unordered.1 member
    have read := isRead_of_mem_children (by simp) rfl listed
    simp only [outlineOf_read read] at reads
    simp only [outlineOf]
    rw [outlineNode_children (by simp) (by simp) (by simp)]
    exact refers_sequence listed (fun known => reads ⟨_, scope, known⟩) _
  | expr expr =>
    cases expr with
    | column => cases member
    | subquery _ query array =>
      obtain ⟨rfl, rfl⟩ := Prod.mk.inj (List.mem_singleton.1 member)
      simp only [outlineOf, outlineNode]
      exact reads ⟨chain, scope, known⟩
    | _ =>
      obtain ⟨rfl, listed⟩ := mem_map_unordered.1 member
      have read := isRead_of_mem_children (by simp) rfl listed
      simp only [outlineOf_read read] at reads
      simp only [outlineOf]
      rw [outlineNode_children (by simp) (by simp) (by simp)]
      exact refers_sequence listed (fun known => reads ⟨_, scope, known⟩) _

/-- The node is the reference, or a source with a path that can stand for it. -/
def Spells (ref : ColumnRef) : Node → Prop
  | .expr (.column other) => ref = other
  | .table (.table table) => ref = { table := table.dataset, column := table.name }
  | _ => False

/-- What is read here is spelt here or read by a visit further down. -/
theorem Outline.Refers.spelt_or_visited {turn : Turn} {node : Node} {around : Surroundings}
    (reads : (outlineOf turn node around).Refers ref) :
    Spells ref node ∨ ∃ turn' child, (turn', child) ∈ visitedBelow turn node ∧
      ∃ around, (outlineOf turn' child around).Refers ref := by
  obtain ⟨chain, scope, known⟩ := around
  have unordered {nodes : List Node}
      (found : ∃ child ∈ nodes, ∃ around, (outlineOf .unordered child around).Refers ref) :
      ∃ turn' child, (turn', child) ∈ nodes.map (Turn.unordered, ·) ∧
        ∃ around, (outlineOf turn' child around).Refers ref := by
    obtain ⟨child, listed, found⟩ := found
    exact ⟨_, child, mem_map_unordered.2 ⟨rfl, listed⟩, found⟩
  cases node with
  | query query =>
    obtain ⟨_, definitions, body⟩ := query
    simp only [outlineOf, outlineQuery, refers_append] at reads
    refine .inr ?_
    rcases reads with reads | reads
    · cases definitions with
      | none => simp [outlineWith] at reads
      | some definitions =>
        rw [outlineWith_some] at reads
        exact ⟨_, _, List.mem_append_left _ (List.mem_singleton_self _), ⟨[], [], known⟩, reads⟩
    · exact ⟨_, _, List.mem_append_right _ (List.mem_singleton_self _), ⟨chain, [], _⟩, reads⟩
  | definitions definitions =>
    obtain ⟨cte, listed, found⟩ := reads.of_ctes
    exact .inr (unordered ⟨_, List.mem_map_of_mem listed, found⟩)
  | cte cte =>
    obtain ⟨_, _, _, _, query⟩ := cte
    cases query with
    | none => exact absurd reads not_refers_empty
    | some query => exact .inr (unordered ⟨_, List.mem_singleton_self _, ⟨[], [], known⟩, reads⟩)
  | body body =>
    refine .inr ?_
    rcases body with ⟨_, block | query⟩ | ⟨_, block | query, _, _, right⟩
    all_goals simp only [outlineOf, outlineBody, refers_append] at reads
    · exact ⟨_, _, List.mem_cons_self, ⟨chain, [], known⟩, reads⟩
    · exact ⟨_, _, List.mem_cons_self, ⟨chain, [], known⟩, reads⟩
    · rcases reads with reads | reads
      · exact ⟨_, _, List.mem_cons_self, ⟨chain, [], known⟩, reads⟩
      · exact ⟨_, _, List.mem_cons_of_mem _ List.mem_cons_self, ⟨chain, [], _⟩, reads⟩
    · rcases reads with reads | reads
      · exact ⟨_, _, List.mem_cons_self, ⟨chain, [], known⟩, reads⟩
      · exact ⟨_, _, List.mem_cons_of_mem _ List.mem_cons_self, ⟨chain, [], _⟩, reads⟩
  | block block =>
    simp only [outlineOf, outlineBlock_eq, refers_append] at reads
    refine .inr (unordered ?_)
    simp only [List.mem_append, or_and_right, exists_or]
    rcases reads with (reads | reads) | reads
    · cases source : block.source with
      | none => simp [source, outlineFrom] at reads
      | some source' =>
        rw [source] at reads
        exact .inl (.inl ⟨_, List.mem_singleton_self _, ⟨chain, [], known⟩, reads⟩)
    · exact .inl (.inr (reads.of_nodes fun _ listed => isRead_of_mem_clauseNodes listed))
    · exact .inr reads.of_items
  | source source =>
    obtain ⟨_, first, joins⟩ := source
    simp only [outlineOf, outlineSources, refers_append] at reads
    refine .inr (unordered ?_)
    simp only [Node.children, List.mem_append, or_and_right, exists_or]
    rcases reads with reads | reads
    · exact .inl ⟨_, mem_present_of_source reads, ⟨chain, [], known⟩, reads⟩
    · obtain ⟨join, listed, found⟩ := reads.of_joins
      exact .inr ⟨_, List.mem_map_of_mem listed, found⟩
  | join join =>
    simp only [outlineOf, refers_append] at reads
    refine .inr (unordered ?_)
    simp only [Node.children, List.append_assoc]
    simp only [List.mem_append (s := join.right.present), or_and_right, exists_or]
    rcases reads with reads | reads
    · exact .inl ⟨_, mem_present_of_source reads, ⟨chain, scope, known⟩, reads⟩
    · exact .inr (reads.of_nodes fun _ listed => (List.mem_append.1 listed).elim
        isRead_of_mem_exprNodes isRead_of_mem_columnNodes)
  | table table =>
    cases table with
    | missing => simp [outlineOf, outlineSource] at reads
    | table table =>
      simp only [outlineOf, outlineSource] at reads
      split at reads
      · exact absurd reads not_refers_empty
      · split at reads
        · exact .inl (refers_reference.1 reads)
        · exact absurd reads not_refers_empty
    | derived _ query _ =>
      simp only [outlineOf, outlineSource] at reads
      exact .inr (unordered ⟨_, List.mem_singleton_self _, ⟨scope :: chain, [], known⟩, reads⟩)
    | function _ call _ _ _ =>
      simp only [outlineOf, outlineSource] at reads
      exact .inr (unordered ⟨_, mem_present_of_refers reads, ⟨scope :: chain, [], known⟩, reads⟩)
    | pivot _ inner aggregates forColumn values _ =>
      simp only [outlineOf, outlineSource_pivot, refers_append, not_refers_whole, or_false] at reads
      refine .inr (unordered ?_)
      simp only [Node.children, TableRef.children, List.append_assoc]
      simp only [List.mem_append (s := inner.present), or_and_right, exists_or]
      rcases reads with reads | reads
      · exact .inl ⟨_, mem_present_of_source reads, ⟨scope :: chain, [], known⟩, reads⟩
      · rw [← List.append_assoc]
        exact .inr (reads.of_nodes fun _ => isRead_of_mem_pivotNodes)
    | unpivot _ inner _ _ groups _ =>
      simp only [outlineOf, outlineSource, refers_append, refers_references, not_refers_whole,
        or_false] at reads
      refine .inr (unordered ?_)
      simp only [Node.children, TableRef.children, List.mem_append, or_and_right, exists_or]
      rcases reads with reads | reads
      · exact .inl ⟨_, mem_present_of_source reads, ⟨scope :: chain, [], known⟩, reads⟩
      · obtain ⟨group, grouped, own⟩ := List.mem_flatMap.1 reads
        refine .inr ⟨.expr (.column ref), List.mem_flatMap.2 ⟨group, grouped, ?_⟩,
          ⟨chain, scope, known⟩, ?_⟩
        · exact List.mem_map_of_mem own
        · simp only [outlineOf, outlineNode, refers_reference]
  | window window =>
    simp only [outlineOf] at reads
    rw [outlineNode_children (by simp) (by simp) (by simp)] at reads
    exact .inr (unordered (reads.of_nodes fun _ => isRead_of_mem_children (by simp) rfl))
  | expr expr =>
    cases expr with
    | column other =>
      simp only [outlineOf, outlineNode, refers_reference] at reads
      exact .inl reads
    | subquery _ query array =>
      simp only [outlineOf, outlineNode] at reads
      exact .inr ⟨_, _, List.mem_singleton_self _, ⟨chain, scope, known⟩, reads⟩
    | _ =>
      simp only [outlineOf] at reads
      rw [outlineNode_children (by simp) (by simp) (by simp)] at reads
      exact .inr (unordered (reads.of_nodes fun _ => isRead_of_mem_children (by simp) rfl))

/-! ### Visits at any depth -/

theorem refers_of_visits {turn turn' : Turn} {node : Node}
    (visits : Visits (turn, node) (turn', .expr (.column ref))) (around : Surroundings) :
    (outlineOf turn node around).Refers ref := by
  have reads : ∀ start, Visits start (turn', .expr (.column ref)) → ∀ around,
      (outlineOf start.1 start.2 around).Refers ref := by
    intro start visits
    induction visits using Relation.ReflTransGen.head_induction_on with
    | refl =>
      intro around
      simp only [outlineOf, outlineNode, refers_reference]
    | head member _ ih => exact refers_of_visitedBelow member ih
  exact reads _ visits around

theorem exists_visits_of_refers {turn : Turn} {node : Node} {around : Surroundings}
    (reads : (outlineOf turn node around).Refers ref) :
    ∃ turn' node', Visits (turn, node) (turn', node') ∧ Spells ref node' := by
  rcases reads.spelt_or_visited with spelt | ⟨turn₁, child, member, around₁, reads⟩
  · exact ⟨turn, node, .refl, spelt⟩
  · have smaller := Node.size_lt_of_mem_children (mem_children_of_mem_visitedBelow member)
    obtain ⟨turn', node', visits, spelt⟩ := exists_visits_of_refers reads
    exact ⟨turn', node', .head member visits, spelt⟩
termination_by node.size
decreasing_by all_goals decreasing_with omega

theorem outlineOf_query (query : Query) :
    outlineOf .outermost (.query query) ⟨[], [], {}⟩ = Outline.ofQuery query := by
  obtain ⟨_, definitions, body⟩ := query
  simp only [outlineOf, outlineQuery]
  rfl

/-- The references that the outline of a statement reads are those that are visited, and paths of
visited sources. -/
theorem refers_iff_visits (query : Query) (ref : ColumnRef) :
    ((∃ turn, Visits (.outermost, .query query) (turn, .expr (.column ref))) →
      (Outline.ofQuery query).Refers ref) ∧
    ((Outline.ofQuery query).Refers ref →
      ∃ turn node, Visits (.outermost, .query query) (turn, node) ∧ Spells ref node) := by
  rw [← outlineOf_query]
  exact ⟨fun ⟨_, visits⟩ => refers_of_visits visits _, exists_visits_of_refers⟩

end Parts

/-! ### Places -/

/-- A node is visited at the place that is given by the nodes above it, the nearest one first. -/
inductive Visited (root : Query) : List Node → Turn → Node → Prop
  | root : Visited root [] .outermost (.query root)
  | next {outer : List Node} {turn turn' : Turn} {node child : Node}
      (visited : Visited root outer turn node) (member : (turn', child) ∈ visitedBelow turn node) :
      Visited root (node :: outer) turn' child

theorem Visited.visits {root : Query} {outer : List Node} {turn : Turn} {node : Node}
    (visited : Visited root outer turn node) : Visits (.outermost, .query root) (turn, node) := by
  induction visited with
  | root => exact .refl
  | next _ member ih => exact ih.tail member

end QueryLint.Usage
