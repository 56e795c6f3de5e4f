import QueryLint.Lint.Rules.TableSuffix
import QueryLint.Proofs.Syntax.Addresses
import QueryLint.Proofs.Lint.Ordering

/-!
Which comparisons with the table suffix are reported. The rule walks through the filter of every block
and stops at nested queries, whose blocks it comes to on their own. An address is therefore reached
from one block only, the nearest one above it, and the reports are in bijection with the addresses at
which a filter offends.
-/

namespace QueryLint.TableSuffix

/-! ### Offences -/

/-- The expression is the suffix column, with or without a qualifier and parentheses. -/
inductive IsSuffix : Expr → Prop
  | column {ref : ColumnRef} (plain : ref.fields = [])
      (named : Text.sameIgnoringCase ref.column "_TABLE_SUFFIX" = true) : IsSuffix (.column ref)
  | paren {span : Span} {inner : Expr} (suffix : IsSuffix inner) : IsSuffix (.paren span inner)

/-- The expression is a subquery at a span, with or without parentheses. -/
inductive IsSubquery : Expr → Span → Prop
  | subquery {span : Span} {query : Query} {array : Bool} :
      IsSubquery (.subquery span query array) span
  | paren {outer span : Span} {inner : Expr} (subquery : IsSubquery inner span) :
      IsSubquery (.paren outer inner) span

/-- An expression compares the suffix with the query at a span. -/
inductive Offends : Expr → Span → Prop
  | comparison {span place : Span} {left right : Expr} {symbol : Symbol}
      (compares : symbol ∈ [.equal, .notEqual, .less, .greater, .lessEqual, .greaterEqual])
      (suffix : IsSuffix left) (subquery : IsSubquery right place) :
      Offends (.binary span left (.symbol symbol) right) place
  | inQuery {span : Span} {operand : Expr} {negated : Bool} {query : Query} (suffix : IsSuffix operand) :
      Offends (.inQuery span operand negated query) query.span
  | low {span place : Span} {operand low high : Expr} {negated : Bool} (suffix : IsSuffix operand)
      (subquery : IsSubquery low place) : Offends (.between span operand negated low high) place
  | high {span place : Span} {operand low high : Expr} {negated : Bool} (suffix : IsSuffix operand)
      (constant : ∀ other, ¬IsSubquery low other) (subquery : IsSubquery high place) :
      Offends (.between span operand negated low high) place

section Offences

variable {expr : Expr} {span : Span}

theorem isSuffix_iff : isSuffix expr = true ↔ IsSuffix expr := by
  unfold isSuffix
  fun_induction Expr.unwrap expr with
  | case1 _ inner ih =>
    rw [ih]
    constructor
    · exact .paren
    · rintro (_ | ⟨suffix⟩)
      exact suffix
  | case2 bare other =>
    split
    next ref =>
      rw [Bool.and_eq_true, List.isEmpty_iff]
      constructor
      · rintro ⟨plain, named⟩
        exact .column plain named
      · rintro (⟨plain, named⟩ | _)
        exact ⟨plain, named⟩
    next different =>
      refine iff_of_false Bool.false_ne_true ?_
      rintro (_ | _)
      · exact different _ rfl
      · exact other _ _ rfl

theorem subquerySpan?_eq_some_iff : subquerySpan? expr = some span ↔ IsSubquery expr span := by
  unfold subquerySpan?
  fun_induction Expr.unwrap expr with
  | case1 _ inner ih =>
    rw [ih]
    constructor
    · exact .paren
    · rintro (_ | ⟨subquery⟩)
      exact subquery
  | case2 bare other =>
    split
    next own query array =>
      rw [Option.some.injEq]
      constructor
      · rintro rfl
        exact .subquery
      · rintro (_ | _)
        rfl
    next different =>
      refine iff_of_false (Option.some_ne_none _).symm ?_
      rintro (_ | _)
      · exact different _ _ _ rfl
      · exact other _ _ rfl

theorem isComparison_iff {operator : TokenKind} :
    isComparison operator = true ↔
      ∃ symbol ∈ [.equal, .notEqual, .less, .greater, .lessEqual, .greaterEqual],
        operator = .symbol symbol := by
  rw [isComparison, List.any_eq_true]
  exact exists_congr fun symbol => and_congr_right fun _ => beq_iff_eq

theorem between_offends_iff {place : Span} {operand low high : Expr} {negated : Bool} :
    Offends (.between place operand negated low high) span ↔
      IsSuffix operand ∧ (IsSubquery low span ∨ (∀ other, ¬IsSubquery low other) ∧ IsSubquery high span) := by
  constructor
  · rintro (_ | _ | ⟨suffix, subquery⟩ | ⟨suffix, constant, subquery⟩)
    · exact ⟨suffix, .inl subquery⟩
    · exact ⟨suffix, .inr ⟨constant, subquery⟩⟩
  · rintro ⟨suffix, subquery | ⟨constant, subquery⟩⟩
    · exact .low suffix subquery
    · exact .high suffix constant subquery

theorem offence?_eq_some_iff : offence? (.expr expr) = some span ↔ Offends expr span := by
  cases expr with
  | binary place left operator right =>
    simp only [offence?, Option.ite_none_right_eq_some, Bool.and_eq_true, isComparison_iff, isSuffix_iff,
      subquerySpan?_eq_some_iff]
    constructor
    · rintro ⟨⟨⟨symbol, compares, rfl⟩, suffix⟩, subquery⟩
      exact .comparison compares suffix subquery
    · rintro ⟨compares, suffix, subquery⟩
      exact ⟨⟨⟨_, compares, rfl⟩, suffix⟩, subquery⟩
  | inQuery place operand negated query =>
    simp only [offence?, Option.ite_none_right_eq_some, isSuffix_iff, Option.some.injEq]
    constructor
    · rintro ⟨suffix, rfl⟩
      exact .inQuery suffix
    · rintro (_ | ⟨suffix⟩)
      exact ⟨suffix, rfl⟩
  | between place operand negated low high =>
    have none : subquerySpan? low = none ↔ ∀ other, ¬IsSubquery low other := by
      simp only [Option.eq_none_iff_forall_ne_some, ne_eq, subquerySpan?_eq_some_iff]
    rw [offence?, Option.ite_none_right_eq_some, isSuffix_iff, Option.or_eq_some_iff, none,
      subquerySpan?_eq_some_iff, subquerySpan?_eq_some_iff, between_offends_iff]
  | _ => exact iff_of_false nofun nofun

theorem offence?_eq_some {node : Node} (found : offence? node = some span) :
    ∃ expr, node = .expr expr ∧ Offends expr span := by
  cases node with
  | expr expr => exact ⟨expr, rfl, offence?_eq_some_iff.1 found⟩
  | _ => cases found

end Offences

/-! ### Filters -/

def filterNumber (block : SelectBlock) : Nat :=
  (block.items.flatMap SelectItem.nodes).length + block.source.toList.length

/-- The address lies in the filter of the nearest block above it. -/
def InFilter (root : Node) (address : List Nat) : Prop :=
  ∃ outer inner block filter, address = outer ++ filterNumber block :: inner ∧
    root.at? outer = some (.block block) ∧ block.filter = some filter ∧ filter ≠ .missing ∧
    ∀ between, between <+: inner → ∀ nested,
      root.at? (outer ++ filterNumber block :: between) ≠ some (.block nested)

section Filters

open QueryLint.Ordering (belongsToQuery not_belongsToQuery_of_mem_children)

variable {root node below : Node} {block : SelectBlock} {filter expr : Expr} {outer inner address : List Nat}

theorem getElem?_filterNumber (filters : block.filter = some filter) (present : filter ≠ .missing) :
    (Node.block block).children[filterNumber block]? = some (.expr filter) := by
  have listed : optionNodes block.filter = [.expr filter] := by
    rw [filters]
    cases filter <;> first | rfl | exact absurd rfl present
  have number : (block.items.flatMap SelectItem.nodes ++ block.source.toList.map Node.source).length =
      filterNumber block := by
    rw [List.length_append, List.length_map, filterNumber]
  simp only [Node.children, SelectBlock.children, List.append_assoc, listed]
  rw [← List.append_assoc, ← number, List.getElem?_append_right le_rfl, Nat.sub_self]
  rfl

theorem at?_filter (found : root.at? outer = some (.block block)) (filters : block.filter = some filter)
    (present : filter ≠ .missing) :
    root.at? (outer ++ filterNumber block :: inner) = (Node.expr filter).at? inner := by
  rw [Node.at?_append, found, Option.bind_some, Node.at?_cons, getElem?_filterNumber filters present,
    Option.bind_some]

theorem not_belongsToQuery_of_at? (start : belongsToQuery node = false)
    (stays : node.EnteredAbove staysInBlock address) (found : node.at? address = some below) :
    belongsToQuery below = false := by
  induction address generalizing node with
  | nil =>
    cases found
    exact start
  | cons number rest ih =>
    obtain ⟨entered, deeper⟩ := Node.enteredAbove_cons.1 stays
    rw [Node.at?_cons, Option.bind_eq_some_iff] at found
    obtain ⟨child, listed, found⟩ := found
    refine ih ?_ (deeper child listed) found
    refine not_belongsToQuery_of_mem_children ?_ ?_ (List.mem_of_getElem? listed)
    · rintro query rfl
      cases entered
    · rintro body rfl
      cases start

/-- Whether a node stands between a query and its blocks. -/
def aboveBlocks : Node → Bool
  | .query _ | .definitions _ | .cte _ | .body _ => true
  | _ => false

theorem aboveBlocks_of_mem_children {child : Node} (above : aboveBlocks node = true)
    (member : child ∈ node.children) : aboveBlocks child = true ∨ ∃ block, child = .block block := by
  have operands : ∀ operand : Operand, aboveBlocks operand.node = true ∨ ∃ block, operand.node = .block block := by
    rintro (block | query)
    · exact .inr ⟨block, rfl⟩
    · exact .inl rfl
  cases node with
  | query query =>
    simp only [Node.children, List.mem_append, List.mem_map, List.mem_singleton] at member
    rcases member with ⟨_, _, rfl⟩ | rfl <;> exact .inl rfl
  | definitions | cte =>
    obtain ⟨_, _, rfl⟩ := List.mem_map.1 member
    exact .inl rfl
  | body body =>
    cases body with
    | single span operand =>
      obtain rfl := List.mem_singleton.1 member
      exact operands operand
    | combined span left operator all right =>
      rcases List.mem_cons.1 member with rfl | later
      · exact operands left
      · obtain rfl := List.mem_singleton.1 later
        exact .inl rfl
  | _ => cases above

theorem exists_block_of_at? (above : aboveBlocks node = true)
    (found : node.at? address = some (.expr expr)) :
    ∃ before, before <+: address ∧ ∃ block, node.at? before = some (.block block) := by
  induction address generalizing node with
  | nil =>
    cases found
    cases above
  | cons number rest ih =>
    rw [Node.at?_cons, Option.bind_eq_some_iff] at found
    obtain ⟨child, listed, found⟩ := found
    have onward : ∀ before, node.at? (number :: before) = child.at? before := fun before => by
      rw [Node.at?_cons, listed, Option.bind_some]
    rcases aboveBlocks_of_mem_children above (List.mem_of_getElem? listed) with above | ⟨block, rfl⟩
    · obtain ⟨before, shorter, block, here⟩ := ih above found
      exact ⟨number :: before, (List.prefix_cons_inj _).2 shorter, block, (onward before).trans here⟩
    · exact ⟨[number], (List.prefix_cons_inj _).2 List.nil_prefix, block, onward []⟩

/-- A walk through a filter comes to the expressions that have no further block above them. -/
theorem enteredAbove_iff (found : (Node.expr filter).at? inner = some (.expr expr)) :
    (Node.expr filter).EnteredAbove staysInBlock inner ↔
      ∀ between, between <+: inner → ∀ nested, (Node.expr filter).at? between ≠ some (.block nested) := by
  constructor
  · intro stays between before nested here
    have belongs := not_belongsToQuery_of_at? rfl (stays.of_isPrefix before) here
    cases belongs
  · rintro lone above ⟨rest, rfl⟩ differs node here
    rw [Node.at?_append, Option.mem_def.1 here, Option.bind_some] at found
    cases node with
    | query query =>
      obtain ⟨before, shorter, block, nested⟩ := exists_block_of_at? rfl found
      refine absurd ?_ (lone (above ++ before) ((List.prefix_append_right_inj _).2 shorter) block)
      rw [Node.at?_append, Option.mem_def.1 here, Option.bind_some, nested]
    | _ => rfl

/-- An address is in the filter of one block only. -/
theorem outer_unique {outer' inner' : List Nat} {block' : SelectBlock}
    (found' : root.at? outer' = some (.block block'))
    (lone : ∀ between, between <+: inner → ∀ nested,
      root.at? (outer ++ filterNumber block :: between) ≠ some (.block nested))
    (same : outer ++ filterNumber block :: inner = outer' ++ filterNumber block' :: inner')
    (shorter : outer <+: outer') : outer = outer' := by
  obtain ⟨_ | ⟨number, between⟩, rfl⟩ := shorter
  · exact (List.append_nil _).symm
  · rw [List.append_assoc, List.append_cancel_left_eq, List.cons_append, List.cons.injEq] at same
    obtain ⟨rfl, rfl⟩ := same
    exact absurd found' (lone between (List.prefix_append _ _) block')

end Filters

/-! ### Queries -/

def blockOffences (block : SelectBlock) : List (List Nat × Span) :=
  block.filter.toList.flatMap fun filter =>
    ((Node.expr filter).visits staysInBlock).filterMap fun (inner, node) => (offence? node).map (inner, ·)

def offences (query : Query) : List (List Nat × Span) :=
  (Node.query query).placedBlocks.flatMap fun (outer, block) =>
    (blockOffences block).map fun (inner, span) => (outer ++ filterNumber block :: inner, span)

section Queries

variable {query : Query} {block : SelectBlock} {address inner : List Nat} {span : Span}

theorem blockOffences_increasing :
    (blockOffences block).Pairwise fun first second => first.1 < second.1 := by
  unfold blockOffences
  cases block.filter with
  | none => exact .nil
  | some filter =>
    rw [Option.toList_some, List.flatMap_singleton]
    refine (Node.visits_increasing _ _).filterMap _ fun first second earlier placed found other also => ?_
    obtain ⟨_, -, rfl⟩ := Option.map_eq_some_iff.1 found
    obtain ⟨_, -, rfl⟩ := Option.map_eq_some_iff.1 also
    exact earlier

theorem ne_missing_of_offends {filter expr : Expr} (offends : Offends expr span)
    (found : (Node.expr filter).at? inner = some (.expr expr)) : filter ≠ .missing := by
  rintro rfl
  cases inner with
  | nil =>
    cases found
    cases offends
  | cons number rest => cases found

theorem mem_blockOffences :
    (inner, span) ∈ blockOffences block ↔ ∃ filter, block.filter = some filter ∧ filter ≠ .missing ∧
      (∀ between, between <+: inner → ∀ nested,
        (Node.expr filter).at? between ≠ some (.block nested)) ∧
      ∃ expr, (Node.expr filter).at? inner = some (.expr expr) ∧ Offends expr span := by
  simp only [blockOffences, List.mem_flatMap, Option.mem_toList, List.mem_filterMap, Prod.exists,
    Option.map_eq_some_iff, Prod.mk.injEq, Node.mem_visits]
  constructor
  · rintro ⟨filter, filters, _, _, ⟨found, entered⟩, _, offence, rfl, rfl⟩
    obtain ⟨expr, rfl, offends⟩ := offence?_eq_some offence
    exact ⟨filter, filters, ne_missing_of_offends offends found, (enteredAbove_iff found).1 entered,
      expr, found, offends⟩
  · rintro ⟨filter, filters, -, lone, expr, found, offends⟩
    exact ⟨filter, filters, inner, _, ⟨found, (enteredAbove_iff found).2 lone⟩, span,
      offence?_eq_some_iff.2 offends, rfl, rfl⟩

theorem mem_offences :
    (address, span) ∈ offences query ↔ InFilter (.query query) address ∧
      ∃ expr, (Node.query query).at? address = some (.expr expr) ∧ Offends expr span := by
  simp only [offences, List.mem_flatMap, List.mem_map, Prod.exists, Prod.mk.injEq,
    Node.mem_placedBlocks, mem_blockOffences]
  constructor
  · rintro ⟨outer, block, placed, inner, _, ⟨filter, filters, present, lone, offence⟩, rfl, rfl⟩
    simp only [← at?_filter placed filters present] at lone offence
    exact ⟨⟨outer, inner, block, filter, rfl, placed, filters, present, lone⟩, offence⟩
  · rintro ⟨⟨outer, inner, block, filter, rfl, placed, filters, present, lone⟩, offence⟩
    simp only [at?_filter placed filters present] at lone offence
    exact ⟨outer, block, placed, inner, span, ⟨filter, filters, present, lone, offence⟩, rfl, rfl⟩

theorem offences_nodup : ((offences query).map Prod.fst).Nodup := by
  have lone : ∀ {outer inner block span}, (Node.query query).at? outer = some (.block block) →
      (inner, span) ∈ blockOffences block → ∀ between, between <+: inner → ∀ nested,
        (Node.query query).at? (outer ++ filterNumber block :: between) ≠ some (.block nested) := by
    intro outer inner block span placed member
    obtain ⟨filter, filters, present, lone, -⟩ := mem_blockOffences.1 member
    simpa only [← at?_filter placed filters present] using lone
  rw [List.nodup_iff_pairwise_ne, List.pairwise_map, offences, List.pairwise_flatMap]
  constructor
  · rintro ⟨outer, block⟩ -
    rw [List.pairwise_map]
    refine blockOffences_increasing.imp fun earlier same => earlier.ne ?_
    exact (List.cons.inj (List.append_cancel_left same)).2
  · refine (Node.placedBlocks_increasing _).imp_of_mem ?_
    rintro ⟨outer, block⟩ ⟨outer', block'⟩ inFirst inSecond earlier offence member offence' member' same
    obtain ⟨⟨inner, span⟩, listed, rfl⟩ := List.mem_map.1 member
    obtain ⟨⟨inner', span'⟩, listed', rfl⟩ := List.mem_map.1 member'
    have placed := Node.mem_placedBlocks.1 inFirst
    have placed' := Node.mem_placedBlocks.1 inSecond
    have same : outer ++ filterNumber block :: inner = outer' ++ filterNumber block' :: inner' := same
    have begins : outer <+: outer' ++ filterNumber block' :: inner' :=
      ⟨filterNumber block :: inner, same⟩
    rcases List.prefix_or_prefix_of_prefix begins (List.prefix_append _ _) with shorter | shorter
    · exact earlier.ne (outer_unique placed' (lone placed listed) same shorter)
    · exact earlier.ne' (outer_unique placed (lone placed' listed') same.symm shorter)

theorem check_eq (dialect : Option Dialect) (settings : Settings) : check query dialect settings =
    (offences query).map fun (_, span) =>
      ⟨"Full scan will cause! Should not compare _TABLE_SUFFIX with subquery", span⟩ := by
  rw [check, Query.blocks, ← Node.placedBlocks_blocks, List.flatMap_map, offences, List.map_flatMap]
  refine List.flatMap_congr fun placed _ => ?_
  rw [List.map_map, checkBlock, blockOffences, List.map_flatMap, List.map_flatMap]
  refine List.flatMap_congr fun filter _ => ?_
  rw [← Node.visits_nodes, List.filterMap_map, List.map_filterMap, List.map_filterMap]
  refine List.filterMap_congr fun visit _ => ?_
  rw [Option.map_map]
  rfl

end Queries

/-- The reports are the offences in filters, one report for each: an expression in the filter of the
nearest block above it that compares the suffix with a query. -/
theorem check_offending_filters (query : Query) (dialect : Option Dialect) (settings : Settings) :
    ∃ offences : List (List Nat × Span), (offences.map Prod.fst).Nodup ∧
      (∀ address span, (address, span) ∈ offences ↔ InFilter (.query query) address ∧
        ∃ expr, (Node.query query).at? address = some (.expr expr) ∧ Offends expr span) ∧
      check query dialect settings = offences.map fun (_, span) =>
        ⟨"Full scan will cause! Should not compare _TABLE_SUFFIX with subquery", span⟩ :=
  ⟨offences query, offences_nodup, fun _ _ => mem_offences, check_eq dialect settings⟩

end QueryLint.TableSuffix
