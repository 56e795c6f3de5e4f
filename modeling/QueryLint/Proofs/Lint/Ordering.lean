import QueryLint.Lint.Rules.Ordering
import QueryLint.Proofs.Usage.Reading
import QueryLint.Proofs.Usage.Visits

/-!
Two answers to the question which orderings have an effect. The rule walks over all queries with
their visibility and reports the orderings of hidden ones; the pass that collects uses reads an
ordering only when it visits the block as one whose order can be observed. At every place that
both come to they agree, except where a query in parentheses is all of a query that becomes an
array: its order is observed, yet the rule takes it for hidden.
-/

namespace QueryLint.Ordering

open QueryLint.Usage

/-! ### Places of the rule -/

/-- A node stands at the place that is given by the nodes above it, the nearest one first. -/
inductive Occurs (root : Query) : List Node → Node → Prop
  | root : Occurs root [] (.query root)
  | next {outer : List Node} {node child : Node} (occurs : Occurs root outer node)
      (member : child ∈ node.children) : Occurs root (node :: outer) child

/-- How the rule sees the rows of queries at a place. -/
def visibilityAt : List Node → Visibility
  | [] => .result
  | node :: outer => visibilityBelow (visibilityAt outer) node

/-- The nodes above the query that a body or a block belongs to. -/
def aboveQuery : List Node → List Node
  | .body _ :: outer => aboveQuery outer
  | outer => outer.tail

/-- The rule reports the ordering of the block at a place. -/
structure Reported (root : Query) (outer : List Node) (block : SelectBlock) : Prop where
  occurs : Occurs root outer (.block block)
  orders : ordersAll block = true
  hidden : visibilityAt (aboveQuery outer) = .hidden

section Places

variable {root : Query} {outer : List Node} {node : Node} {block : SelectBlock}

theorem vain_eq (visibility : Visibility) (node : Node) :
    vain visibility node = vainBlocks visibility node ++
      node.children.flatMap (vain (visibilityBelow visibility node)) := by
  rw [vain, List.flatMap_subtype (g := vain (visibilityBelow visibility node)) (fun _ _ => rfl),
    List.unattach_attach]

theorem vain_of_occurs (occurs : Occurs root outer node)
    (member : block ∈ vain (visibilityAt outer) node) : block ∈ vain .result (.query root) := by
  induction occurs with
  | root => exact member
  | @next outer node child _ below ih =>
    refine ih ?_
    rw [vain_eq]
    exact List.mem_append_right _ (List.mem_flatMap.2 ⟨child, below, member⟩)

theorem blocks_single (span : Span) (operand : Operand) :
    (QueryBody.single span operand).blocks = match operand with
      | .block block => [block]
      | .nested _ => [] := by
  cases operand <;> simp [QueryBody.blocks, QueryBody.operands]

theorem blocks_combined (span : Span) (left : Operand) (operator : SetOperator) (all : Bool)
    (right : QueryBody) :
    (QueryBody.combined span left operator all right).blocks =
      (QueryBody.single span left).blocks ++ right.blocks := by
  cases left <;> simp [QueryBody.blocks, QueryBody.operands]

theorem occurs_of_mem_blocks {outer : List Node} (body : QueryBody)
    (occurs : Occurs root outer (.body body)) (member : block ∈ body.blocks) :
    ∃ outer', Occurs root outer' (.block block) ∧ aboveQuery outer' = aboveQuery outer := by
  induction body using QueryBody.operands.induct generalizing outer with
  | case1 span operand =>
    rw [blocks_single] at member
    cases operand with
    | nested query => cases member
    | block own =>
      obtain rfl := List.mem_singleton.1 member
      exact ⟨_, .next occurs (List.mem_singleton_self _), rfl⟩
  | case2 span left operator all right ih =>
    rw [blocks_combined, blocks_single, List.mem_append] at member
    rcases member with member | member
    · cases left with
      | nested query => cases member
      | block own =>
        obtain rfl := List.mem_singleton.1 member
        exact ⟨_, .next occurs List.mem_cons_self, rfl⟩
    · obtain ⟨outer', found, same⟩ :=
        ih (occurs.next (List.mem_cons_of_mem _ List.mem_cons_self)) member
      exact ⟨outer', found, same⟩

theorem reported_of_mem_vain {outer : List Node} {node : Node} (occurs : Occurs root outer node)
    (member : block ∈ vain (visibilityAt outer) node) : ∃ outer', Reported root outer' block := by
  rw [vain_eq, List.mem_append] at member
  rcases member with own | later
  · cases node with
    | query query =>
      rw [vainBlocks] at own
      split at own
      next hidden =>
        obtain ⟨listed, orders⟩ := List.mem_filter.1 own
        obtain ⟨outer', found, same⟩ := occurs_of_mem_blocks query.body
          (occurs.next (List.mem_append_right _ (List.mem_singleton_self _))) listed
        exact ⟨outer', found, orders, same ▸ hidden⟩
      next => cases own
    | _ => cases own
  · obtain ⟨child, below, member⟩ := List.mem_flatMap.1 later
    have smaller := Node.size_lt_of_mem_children below
    exact reported_of_mem_vain (occurs.next below) member
termination_by node.size

/-- Whether a node is a body or a block, which belongs to the query above it. -/
def belongsToQuery : Node → Bool
  | .body _ | .block _ => true
  | _ => false

theorem not_belongsToQuery_of_isRead (read : isRead node = true) : belongsToQuery node = false := by
  cases node <;> first | rfl | cases read

theorem not_belongsToQuery_of_mem_present {table : TableRef} (member : node ∈ table.present) :
    belongsToQuery node = false := by
  rw [TableRef.eq_of_mem_present member]
  rfl

theorem not_belongsToQuery_of_mem_children {child : Node} (notQuery : ∀ query, node ≠ .query query)
    (notBody : ∀ body, node ≠ .body body) (member : child ∈ node.children) :
    belongsToQuery child = false := by
  cases node with
  | query query => exact absurd rfl (notQuery query)
  | body body => exact absurd rfl (notBody body)
  | definitions | cte =>
    obtain ⟨_, _, rfl⟩ := List.mem_map.1 member
    rfl
  | block block =>
    simp only [Node.children, SelectBlock.children, optionNodes] at member
    grind [not_belongsToQuery_of_isRead, isRead_of_mem_itemNodes, isRead_of_mem_exprNodes,
      isRead_of_mem_orderNodes, belongsToQuery]
  | source source =>
    simp only [Node.children] at member
    grind [not_belongsToQuery_of_mem_present, belongsToQuery]
  | join join =>
    simp only [Node.children, optionNodes] at member
    grind [not_belongsToQuery_of_mem_present, not_belongsToQuery_of_isRead, isRead_of_mem_exprNodes,
      isRead_of_mem_columnNodes, belongsToQuery]
  | table table =>
    cases table with
    | missing | table => cases member
    | _ =>
      simp only [Node.children, TableRef.children, List.mem_append, List.mem_flatMap,
        List.mem_singleton] at member
      grind [not_belongsToQuery_of_mem_present, not_belongsToQuery_of_isRead, isRead_of_mem_present,
        isRead_of_mem_namedNodes, isRead_of_mem_columnNodes, belongsToQuery]
  | window | expr =>
    exact not_belongsToQuery_of_isRead (isRead_of_mem_children (by simp) rfl member)

def ownBlocks : Node → List SelectBlock
  | .body body => body.blocks
  | .block block => [block]
  | _ => []

theorem Occurs.query (occurs : Occurs root outer node) (belongs : belongsToQuery node = true) :
    ∃ query, Occurs root (aboveQuery outer) (.query query) ∧
      ∀ block ∈ ownBlocks node, block ∈ query.body.blocks := by
  induction occurs with
  | root => cases belongs
  | @next outer node child occurs member ih =>
    cases node with
    | query query =>
      refine ⟨query, occurs, ?_⟩
      simp only [Node.children, List.mem_append, List.mem_map, List.mem_singleton] at member
      rcases member with ⟨_, _, rfl⟩ | rfl
      · cases belongs
      · exact fun _ own => own
    | body body =>
      obtain ⟨query, found, contains⟩ := ih rfl
      refine ⟨query, found, fun block own => contains block ?_⟩
      cases body with
      | single span operand =>
        obtain rfl := List.mem_singleton.1 member
        cases operand with
        | nested query => cases belongs
        | block block => rwa [ownBlocks, blocks_single]
      | combined span left operator all right =>
        rw [ownBlocks, blocks_combined, blocks_single, List.mem_append]
        rcases List.mem_cons.1 member with rfl | later
        · cases left with
          | nested query => cases belongs
          | block block => exact .inl own
        · obtain rfl := List.mem_singleton.1 later
          exact .inr own
    | _ =>
      rw [not_belongsToQuery_of_mem_children (by simp) (by simp) member] at belongs
      cases belongs

theorem mem_vain_iff : block ∈ vain .result (.query root) ↔ ∃ outer, Reported root outer block := by
  refine ⟨reported_of_mem_vain .root, fun ⟨outer, occurs, orders, hidden⟩ => ?_⟩
  obtain ⟨query, found, contains⟩ := occurs.query rfl
  refine vain_of_occurs found ?_
  rw [vain_eq, vainBlocks, if_pos hidden]
  exact List.mem_append_left _
    (List.mem_filter.2 ⟨contains block (List.mem_singleton_self _), orders⟩)

theorem mem_check_iff (dialect : Option Dialect) (settings : Settings) (finding : Finding) :
    finding ∈ check root dialect settings ↔ ∃ outer block, Reported root outer block ∧
      finding = ⟨message, { start := block.orderByPosition }⟩ := by
  simp only [check, List.mem_map, mem_vain_iff]
  exact ⟨fun ⟨block, ⟨outer, reported⟩, same⟩ => ⟨outer, block, reported, same.symm⟩,
    fun ⟨outer, block, reported, same⟩ => ⟨block, ⟨outer, reported⟩, same.symm⟩⟩

end Places

/-! ### Agreement -/

/-- Whether what stands at a place becomes an array. -/
def becomesArray : List Node → Bool
  | .expr (.subquery _ _ true) :: _ => true
  | _ => false

/-- Whether a query at a place is all of a query that becomes an array, in parentheses that may be
nested. -/
def allOfArray : List Node → Bool
  | .body (.single _ (.nested _)) :: .query _ :: outer => becomesArray outer || allOfArray outer
  | _ => false

/-- What the rule sees at the place of a query and what the pass takes it for. -/
structure Agrees (above : List Node) (final : Bool) : Prop where
  hidden : visibilityAt above = .hidden ↔ final = false ∨ allOfArray above = true
  array : visibilityAt above = .array ↔ becomesArray above = true

/-- What holds where a node is visited: bodies and blocks are visited as their query is, and only
the first body of a query stands directly below it. -/
def Consistent (outer : List Node) (turn : Turn) : Node → Prop
  | .query _ => turn.first = true ∧ Agrees outer turn.final
  | .body _ => Agrees (aboveQuery outer) turn.final ∧
      if turn.first then ∃ query, outer = .query query :: aboveQuery outer
      else ∃ span left operator all right outer',
        outer = .body (.combined span left operator all right) :: outer'
  | .block _ => Agrees (aboveQuery outer) turn.final
  | _ => True

section Agreement

variable {root : Query} {outer : List Node} {turn turn' : Turn} {node child : Node}

theorem agrees_unordered (hidden : visibilityBelow (visibilityAt outer) node = .hidden)
    (notArray : becomesArray (node :: outer) = false) : Agrees (node :: outer) false := by
  constructor
  · simp [visibilityAt, hidden]
  · simp [visibilityAt, hidden, notArray]

theorem consistent_unordered (hidden : visibilityBelow (visibilityAt outer) node = .hidden)
    (notArray : becomesArray (node :: outer) = false) (apart : belongsToQuery child = false) :
    Consistent (node :: outer) .unordered child := by
  cases child with
  | query query => exact ⟨rfl, agrees_unordered hidden notArray⟩
  | body | block => cases apart
  | _ => trivial

theorem Agrees.nested {query inner : Query} {span : Span} {final : Bool}
    (agrees : Agrees outer final) :
    Agrees (.body (.single span (.nested inner)) :: .query query :: outer) final := by
  have hidden := agrees.hidden
  have array := agrees.array
  constructor
  · simp only [visibilityAt, visibilityBelow, allOfArray, Bool.or_eq_true]
    cases seen : visibilityAt outer <;> grind
  · simp only [visibilityAt, visibilityBelow, becomesArray]
    cases visibilityAt outer <;> simp

theorem Consistent.next (consistent : Consistent outer turn node)
    (member : (turn', child) ∈ visitedBelow turn node) : Consistent (node :: outer) turn' child := by
  have below := mem_children_of_mem_visitedBelow member
  cases node with
  | query query =>
    simp only [visitedBelow, List.mem_append, List.mem_map, List.mem_singleton,
      Prod.mk.injEq] at member
    rcases member with ⟨_, _, _, rfl⟩ | ⟨rfl, rfl⟩
    · trivial
    · exact ⟨consistent.2, query, rfl⟩
  | body body =>
    obtain ⟨agrees, place⟩ := consistent
    rcases body with ⟨span, block | query⟩ | ⟨span, block | query, operator, all, right⟩
    all_goals simp only [visitedBelow, List.mem_cons, List.not_mem_nil, or_false,
      Prod.mk.injEq] at member
    · obtain ⟨rfl, rfl⟩ := member
      exact agrees
    · obtain ⟨rfl, rfl⟩ := member
      refine ⟨rfl, ?_⟩
      cases first : turn.first with
      | true =>
        rw [first, if_pos rfl] at place
        obtain ⟨query, same⟩ := place
        rw [same, Bool.and_true]
        exact agrees.nested
      | false =>
        rw [first, if_neg Bool.false_ne_true] at place
        obtain ⟨_, _, _, _, _, outer', rfl⟩ := place
        rw [Bool.and_false]
        exact agrees_unordered rfl rfl
    · rcases member with ⟨rfl, rfl⟩ | ⟨rfl, rfl⟩
      · exact agrees
      · exact ⟨agrees, _, _, _, _, _, _, rfl⟩
    · rcases member with ⟨rfl, rfl⟩ | ⟨rfl, rfl⟩
      · exact consistent_unordered rfl rfl rfl
      · exact ⟨agrees, _, _, _, _, _, _, rfl⟩
  | expr expr =>
    have apart := not_belongsToQuery_of_mem_children (by simp) (by simp) below
    cases expr with
    | subquery span query array =>
      obtain ⟨rfl, rfl⟩ := Prod.mk.inj (List.mem_singleton.1 member)
      refine ⟨rfl, ?_, ?_⟩
      · cases array <;> simp [visibilityAt, visibilityBelow, allOfArray]
      · cases array <;> simp [visibilityAt, visibilityBelow, becomesArray]
    | _ =>
      obtain ⟨rfl, _⟩ := mem_map_unordered.1 member
      exact consistent_unordered rfl rfl apart
  | _ =>
    have apart := not_belongsToQuery_of_mem_children (by simp) (by simp) below
    obtain ⟨rfl, _⟩ := mem_map_unordered.1 member
    exact consistent_unordered rfl rfl apart

theorem consistent_of_visited (visited : Visited root outer turn node) :
    Consistent outer turn node := by
  induction visited with
  | root => exact ⟨rfl, by decide, by decide⟩
  | next _ member ih => exact ih.next member

theorem occurs_of_visited (visited : Visited root outer turn node) : Occurs root outer node := by
  induction visited with
  | root => exact .root
  | next _ member ih => exact ih.next (mem_children_of_mem_visitedBelow member)

theorem visitedBelow_unobserved {block : SelectBlock} (unobserved : turn.final = false)
    (orders : ordersAll block = true) :
    visitedBelow turn (.block block) = visitedBelow turn (.block { block with orderBy := [] }) := by
  have keepsAll : block.hasLimit = false := by
    simp only [ordersAll, Bool.and_eq_true, Bool.not_eq_true'] at orders
    exact orders.2
  have same : ({ block with orderBy := [] } : SelectBlock).hasLimit = block.hasLimit := rfl
  simp only [visitedBelow, clauseNodes, same, keepsAll, unobserved, Bool.or_self,
    Bool.false_eq_true, if_false]

theorem refers_of_observed {block : SelectBlock} {ref : ColumnRef}
    (visited : Visited root outer turn (.block block)) (observed : turn.final = true)
    (member : node ∈ orderNodes block.orderBy)
    (visits : Visits (.unordered, node) (turn', .expr (.column ref))) :
    (Outline.ofQuery root).Refers ref := by
  have below : (Turn.unordered, node) ∈ visitedBelow turn (.block block) := by
    refine mem_map_unordered.2 ⟨rfl, List.mem_append_left _ (List.mem_append_right _ ?_)⟩
    rw [clauseNodes, observed, Bool.true_or, if_pos rfl]
    exact List.mem_append_right _ member
  refine (refers_iff_visits root ref).1 ⟨turn', ?_⟩
  exact (visited.visits.tail below).trans visits

end Agreement

/-- The rule reports an ordering that keeps all rows if and only if the pass visits its block as
unobserved, except in parentheses that are all of a query that becomes an array. Findings are
reports at places of the statement; the references that are read are the visited ones, those of an
observed ordering among them and those of an unobserved one not. -/
theorem reported_iff_unobserved (root : Query) :
    (∀ dialect settings finding, finding ∈ check root dialect settings ↔
      ∃ outer block, Reported root outer block ∧
        finding = ⟨message, { start := block.orderByPosition }⟩) ∧
    (∀ ref, (Outline.ofQuery root).Refers ref →
      ∃ turn node, Visits (.outermost, .query root) (turn, node) ∧ Spells ref node) ∧
    ∀ outer turn block, Visited root outer turn (.block block) → ordersAll block = true →
      (Reported root outer block ↔
        turn.final = false ∨ allOfArray (aboveQuery outer) = true) ∧
      (turn.final = false →
        visitedBelow turn (.block block) = visitedBelow turn (.block { block with orderBy := [] })) ∧
      (turn.final = true → ∀ node ∈ orderNodes block.orderBy, ∀ turn' ref,
        Visits (.unordered, node) (turn', .expr (.column ref)) →
          (Outline.ofQuery root).Refers ref) := by
  refine ⟨fun dialect settings finding => mem_check_iff dialect settings finding,
    fun ref => (refers_iff_visits root ref).2, fun outer turn block visited orders => ⟨?_, ?_, ?_⟩⟩
  · have agrees : Agrees (aboveQuery outer) turn.final := consistent_of_visited visited
    rw [← agrees.hidden]
    exact ⟨fun reported => reported.hidden, fun hidden => ⟨occurs_of_visited visited, orders, hidden⟩⟩
  · exact fun unobserved => visitedBelow_unobserved unobserved orders
  · exact fun observed node member turn' ref visits => refers_of_observed visited observed member visits

def selecting (expr : Expr) (orderBy : List OrderItem) : SelectBlock where
  span := {}
  distinct := false
  asKind := ""
  items := [.expr {} expr "" {}]
  source := none
  filter := none
  groupBy := []
  having := none
  windows := []
  qualify := none
  orderBy := orderBy
  orderByPosition := {}
  limit := none
  offset := none
  extensions := []

/-- In `SELECT ARRAY((SELECT x ORDER BY x))` the order is observed and reported all the same. -/
theorem array_in_parentheses_reported :
    let alone (operand : Operand) : Query := ⟨{}, none, .single {} operand⟩
    let ordered := selecting (.column { column := "x" }) [⟨.column { column := "x" }, false, none⟩]
    let array := alone (.nested (alone (.block ordered)))
    let root := alone (.block (selecting (.subquery {} array true) []))
    ∃ outer turn, Visited root outer turn (.block ordered) ∧ turn.final = true ∧
      Reported root outer ordered := by
  intro alone ordered array root
  have start : Visited root [] .outermost (.query root) := .root
  have atArray := (((start.next List.mem_cons_self).next List.mem_cons_self).next
    List.mem_cons_self).next List.mem_cons_self
  have visited := (((atArray.next List.mem_cons_self).next List.mem_cons_self).next
    List.mem_cons_self).next List.mem_cons_self
  exact ⟨_, _, visited, rfl, ((reported_iff_unobserved root).2.2 _ _ _ visited rfl).1.2 (.inr rfl)⟩

end QueryLint.Ordering
