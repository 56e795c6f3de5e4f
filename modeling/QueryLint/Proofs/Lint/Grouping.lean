import Std.Data.String.ToNat
import QueryLint.Lint.Rules.Grouping
import QueryLint.Proofs.Syntax.Addresses

/-!
Which select items of a grouped block are reported. What the keys of a block are is said by the
grouping expression that makes each of them (`MakesOrdinal`, `MakesName`); which references an item
reads once per group is said by their addresses in its expression (`Ungrouped`). The rule reports the
items that have such a reference, each at the one with the smallest address.
-/

namespace QueryLint.Grouping

/-! ### Keys -/

/-- The number literal is written in decimal digits, which denote the number. -/
structure Denotes (literal : Literal) (number : Nat) : Prop where
  kind : literal.kind = .number
  written : literal.value ≠ ""
  digits : ∀ digit ∈ literal.value.toList, digit.isDigit = true
  value : number = Nat.ofDigitChars 10 literal.value.toList 0

/-- The arguments of a call with the name are grouping expressions themselves. -/
def GroupsArguments (name : String) : Prop :=
  name ∈ ["ROLLUP", "CUBE", "GROUPING SETS", "GROUPING_SETS"]

/-- A grouping expression makes a place in the select list a key. -/
inductive MakesOrdinal : Expr → Nat → Prop
  | paren {span : Span} {inner : Expr} {number : Nat} (makes : MakesOrdinal inner number) :
      MakesOrdinal (.paren span inner) number
  | literal {literal : Literal} {number : Nat} (denotes : Denotes literal number) :
      MakesOrdinal (.literal literal) number
  | argument {argument : Expr} {head : CallHead} {arguments : List Expr} {orderBy : List OrderItem}
      {limit : Option Expr} {window : Option WindowSpec} {number : Nat}
      (grouping : GroupsArguments head.name) (member : argument ∈ arguments)
      (makes : MakesOrdinal argument number) :
      MakesOrdinal (.call head arguments orderBy limit window) number

/-- All column references of the expression make keys: it is neither in parentheses nor a call whose
arguments are grouping expressions. -/
structure Whole (expr : Expr) : Prop where
  bare : ∀ span inner, expr ≠ .paren span inner
  single : ∀ head arguments orderBy limit window,
    expr = .call head arguments orderBy limit window → ¬GroupsArguments head.name

/-- A grouping expression makes a folded name or path a key. -/
inductive MakesName : Expr → String → Prop
  | paren {span : Span} {inner : Expr} {name : String} (makes : MakesName inner name) :
      MakesName (.paren span inner) name
  | reference {expr : Expr} {address : List Nat} {ref : ColumnRef} {name : String} (whole : Whole expr)
      (reads : (Node.expr expr).at? address = some (.expr (.column ref)))
      (names : name = Text.fold ref.column ∨ name = Text.fold ref.name) : MakesName expr name
  | argument {argument : Expr} {head : CallHead} {arguments : List Expr} {orderBy : List OrderItem}
      {limit : Option Expr} {window : Option WindowSpec} {name : String}
      (grouping : GroupsArguments head.name) (member : argument ∈ arguments)
      (makes : MakesName argument name) :
      MakesName (.call head arguments orderBy limit window) name

section Making

variable {expr : Expr} {span : Span} {head : CallHead} {arguments : List Expr}
  {orderBy : List OrderItem} {limit : Option Expr} {window : Option WindowSpec} {number : Nat}
  {name : String}

theorem makesOrdinal_paren :
    MakesOrdinal (.paren span expr) number ↔ MakesOrdinal expr number :=
  ⟨fun | .paren makes => makes, .paren⟩

theorem makesOrdinal_literal {literal : Literal} :
    MakesOrdinal (.literal literal) number ↔ Denotes literal number :=
  ⟨fun | .literal denotes => denotes, .literal⟩

theorem makesOrdinal_of_grouping (grouping : GroupsArguments head.name) :
    MakesOrdinal (.call head arguments orderBy limit window) number ↔
      ∃ argument ∈ arguments, MakesOrdinal argument number :=
  ⟨fun | .argument _ member makes => ⟨_, member, makes⟩,
    fun ⟨_, member, makes⟩ => .argument grouping member makes⟩

theorem not_makesOrdinal_of_whole (whole : Whole expr) (other : ∀ literal, expr ≠ .literal literal) :
    ¬MakesOrdinal expr number
  | .paren _ => whole.bare _ _ rfl
  | .literal _ => other _ rfl
  | .argument grouping _ _ => whole.single _ _ _ _ _ rfl grouping

theorem makesName_paren : MakesName (.paren span expr) name ↔ MakesName expr name := by
  constructor
  · rintro (makes | ⟨whole, -, -⟩)
    · exact makes
    · exact absurd rfl (whole.bare _ _)
  · exact .paren

theorem makesName_of_grouping (grouping : GroupsArguments head.name) :
    MakesName (.call head arguments orderBy limit window) name ↔
      ∃ argument ∈ arguments, MakesName argument name := by
  constructor
  · rintro (- | ⟨whole, -, -⟩ | ⟨-, member, makes⟩)
    · exact absurd grouping (whole.single _ _ _ _ _ rfl)
    · exact ⟨_, member, makes⟩
  · rintro ⟨_, member, makes⟩
    exact .argument grouping member makes

theorem makesName_of_whole (whole : Whole expr) :
    MakesName expr name ↔ ∃ address ref,
      (Node.expr expr).at? address = some (.expr (.column ref)) ∧
        (name = Text.fold ref.column ∨ name = Text.fold ref.name) := by
  constructor
  · rintro (makes | ⟨-, reads, names⟩ | ⟨grouping, -, -⟩)
    · exact absurd rfl (whole.bare _ _)
    · exact ⟨_, _, reads, names⟩
    · exact absurd grouping (whole.single _ _ _ _ _ rfl)
  · rintro ⟨_, _, reads, names⟩
    exact .reference whole reads names

theorem makesOrdinal_unwrap : MakesOrdinal expr.unwrap number ↔ MakesOrdinal expr number := by
  fun_induction Expr.unwrap expr with
  | case1 _ _ ih => rw [ih, makesOrdinal_paren]
  | case2 => rfl

theorem makesName_unwrap : MakesName expr.unwrap name ↔ MakesName expr name := by
  fun_induction Expr.unwrap expr with
  | case1 _ _ ih => rw [ih, makesName_paren]
  | case2 => rfl

end Making

/-- A place in the select list, counted from one, is a key of the block. -/
def OrdinalKey (block : SelectBlock) (number : Nat) : Prop :=
  ∃ expr ∈ block.groupBy, MakesOrdinal expr number

/-- A folded name or path is a key of the block. -/
def NameKey (block : SelectBlock) (name : String) : Prop :=
  ∃ expr ∈ block.groupBy, MakesName expr name

namespace Keys

variable {expr : Expr} {name : String} {number : Nat}

@[simp] theorem mem_append_names {a b : Keys} :
    name ∈ (a.append b).names ↔ name ∈ a.names ∨ name ∈ b.names :=
  List.mem_append

@[simp] theorem mem_append_ordinals {a b : Keys} :
    number ∈ (a.append b).ordinals ↔ number ∈ a.ordinals ∨ number ∈ b.ordinals :=
  List.mem_append

section Gathering

variable {α : Type} {part : α → Keys} {parts : List α} {start : Keys}

theorem mem_foldl_names :
    name ∈ (parts.foldl (fun keys entry => keys.append (part entry)) start).names ↔
      name ∈ start.names ∨ ∃ entry ∈ parts, name ∈ (part entry).names := by
  induction parts generalizing start with
  | nil => simp
  | cons entry parts ih => simp [ih, or_assoc]

theorem mem_foldl_ordinals :
    number ∈ (parts.foldl (fun keys entry => keys.append (part entry)) start).ordinals ↔
      number ∈ start.ordinals ∨ ∃ entry ∈ parts, number ∈ (part entry).ordinals := by
  induction parts generalizing start with
  | nil => simp
  | cons entry parts ih => simp [ih, or_assoc]

end Gathering

theorem mem_ofRefs_names {node : Node} :
    name ∈ (ofRefs node).names ↔ ∃ address ref, node.at? address = some (.expr (.column ref)) ∧
      (name = Text.fold ref.column ∨ name = Text.fold ref.name) := by
  simp only [ofRefs, List.mem_flatMap, List.mem_cons, List.not_mem_nil, or_false]
  constructor
  · rintro ⟨ref, member, names⟩
    obtain ⟨address, found⟩ := Node.mem_columnRefs.1 member
    exact ⟨address, ref, found, names⟩
  · rintro ⟨address, ref, found, names⟩
    exact ⟨ref, Node.mem_columnRefs.2 ⟨address, found⟩, names⟩

theorem ofRefs_literal (literal : Literal) : ofRefs (.expr (.literal literal)) = {} := by
  rw [ofRefs, Node.columnRefs, Node.descendants, Node.walk_eq, if_pos rfl]
  rfl

theorem toNat?_of_digits {text : String} (written : text ≠ "")
    (digits : ∀ digit ∈ text.toList, digit.isDigit = true) :
    text.toNat? = some (Nat.ofDigitChars 10 text.toList 0) := by
  have plain : text.toList.filter (· != '_') = text.toList := by
    refine List.filter_eq_self.2 fun digit member => bne_iff_ne.2 ?_
    rintro rfl
    exact absurd (digits _ member) (by decide)
  rw [String.toNat?_eq_some_ofDigitChars (String.isNat_of_isDigit written digits), plain]

theorem ordinal?_eq_some_iff {literal : Literal} :
    ordinal? literal = some number ↔ Denotes literal number := by
  rw [ordinal?, Option.ite_none_right_eq_some]
  simp only [Bool.and_eq_true, beq_iff_eq, Bool.not_eq_true', String.isEmpty_eq_false_iff,
    String.all_bool_eq, List.all_eq_true]
  constructor
  · rintro ⟨⟨⟨kind, written⟩, digits⟩, value⟩
    rw [toNat?_of_digits written digits, Option.some.injEq] at value
    exact ⟨kind, written, digits, value.symm⟩
  · rintro ⟨kind, written, digits, rfl⟩
    exact ⟨⟨⟨kind, written⟩, digits⟩, toNat?_of_digits written digits⟩

theorem ofExpr_literal {literal : Literal} (bare : expr.unwrap = .literal literal) :
    ofExpr expr = { ordinals := (ordinal? literal).toList } := by
  rw [ofExpr]
  split <;> grind

theorem contains_keyFunctions {name : String} :
    keyFunctions.contains name = true ↔ GroupsArguments name :=
  List.contains_iff_mem

theorem ofExpr_grouping {head : CallHead} {arguments : List Expr} {orderBy : List OrderItem}
    {limit : Option Expr} {window : Option WindowSpec}
    (bare : expr.unwrap = .call head arguments orderBy limit window)
    (grouping : GroupsArguments head.name) :
    ofExpr expr = arguments.foldl (fun keys argument => keys.append (ofExpr argument)) {} := by
  rw [ofExpr]
  split
  case h_2 same =>
    cases bare.symm.trans same
    rw [if_pos (contains_keyFunctions.2 grouping), List.foldl_subtype fun _ _ _ => rfl,
      List.unattach_attach]
    rfl
  all_goals grind

theorem ofExpr_whole (whole : Whole expr.unwrap) (other : ∀ literal, expr.unwrap ≠ .literal literal) :
    ofExpr expr = ofRefs (.expr expr.unwrap) := by
  rw [ofExpr]
  split
  case h_1 literal same => exact absurd same (other literal)
  case h_2 head arguments orderBy limit window same =>
    have unlisted := mt contains_keyFunctions.1 (whole.single _ _ _ _ _ same)
    rw [if_neg unlisted, same]
  case h_3 => rfl

theorem grouping_or_whole (expr : Expr) :
    (∃ head arguments orderBy limit window, expr.unwrap = .call head arguments orderBy limit window ∧
      GroupsArguments head.name) ∨ Whole expr.unwrap := by
  refine or_iff_not_imp_left.2 fun other => ⟨expr.unwrap_ne_paren, ?_⟩
  intro head arguments orderBy limit window same grouping
  exact other ⟨head, arguments, orderBy, limit, window, same, grouping⟩

theorem mem_ofExpr_ordinals (expr : Expr) :
    number ∈ (ofExpr expr).ordinals ↔ MakesOrdinal expr number := by
  rw [← makesOrdinal_unwrap]
  obtain ⟨head, arguments, orderBy, limit, window, bare, grouping⟩ | whole := grouping_or_whole expr
  · rw [ofExpr_grouping bare grouping, mem_foldl_ordinals, or_iff_right List.not_mem_nil, bare,
      makesOrdinal_of_grouping grouping]
    refine exists_congr fun argument => and_congr_right fun member => ?_
    have smaller := (List.sizeOf_lt_of_mem member).trans (size_lt_of_unwrap_eq_call bare)
    exact mem_ofExpr_ordinals argument
  · by_cases constant : ∃ literal, expr.unwrap = .literal literal
    · obtain ⟨literal, bare⟩ := constant
      rw [ofExpr_literal bare, bare, Option.mem_toList, makesOrdinal_literal]
      exact ordinal?_eq_some_iff
    · have other := not_exists.1 constant
      rw [ofExpr_whole whole other]
      exact iff_of_false List.not_mem_nil (not_makesOrdinal_of_whole whole other)
termination_by sizeOf expr

theorem mem_ofExpr_names (expr : Expr) : name ∈ (ofExpr expr).names ↔ MakesName expr name := by
  rw [← makesName_unwrap]
  obtain ⟨head, arguments, orderBy, limit, window, bare, grouping⟩ | whole := grouping_or_whole expr
  · rw [ofExpr_grouping bare grouping, mem_foldl_names, or_iff_right List.not_mem_nil, bare,
      makesName_of_grouping grouping]
    refine exists_congr fun argument => and_congr_right fun member => ?_
    have smaller := (List.sizeOf_lt_of_mem member).trans (size_lt_of_unwrap_eq_call bare)
    exact mem_ofExpr_names argument
  · rw [makesName_of_whole whole, ← mem_ofRefs_names]
    by_cases constant : ∃ literal, expr.unwrap = .literal literal
    · -- the rule does not look for columns in a literal, which has none
      obtain ⟨literal, bare⟩ := constant
      rw [ofExpr_literal bare, bare, ofRefs_literal]
    · rw [ofExpr_whole whole (not_exists.1 constant)]
termination_by sizeOf expr

theorem mem_ofBlock_ordinals {block : SelectBlock} :
    number ∈ (ofBlock block).ordinals ↔ OrdinalKey block number := by
  rw [ofBlock, mem_foldl_ordinals, or_iff_right List.not_mem_nil]
  exact exists_congr fun expr => and_congr_right fun _ => mem_ofExpr_ordinals expr

theorem mem_ofBlock_names {block : SelectBlock} :
    name ∈ (ofBlock block).names ↔ NameKey block name := by
  rw [ofBlock, mem_foldl_names, or_iff_right List.not_mem_nil]
  exact exists_congr fun expr => and_congr_right fun _ => mem_ofExpr_names expr

end Keys

/-! ### Columns that are read once per group -/

/-- A call of the function is an aggregate in every dialect or in the given one. -/
def Aggregates (dialect : Option Dialect) (name : String) : Prop :=
  name ∈ ["COUNT", "SUM", "AVG", "MAX", "MIN", "ANY_VALUE", "ARRAY_AGG", "STRING_AGG", "COUNTIF"] ∨
    ∃ known ∈ dialect, known.isAggregate name = true

/-- The columns below the node are not read once per group: it is a nested query, an aggregate or a
call over a window. -/
inductive Shields (dialect : Option Dialect) : Node → Prop
  | query {query : Query} : Shields dialect (.query query)
  | aggregate {head : CallHead} {arguments : List Expr} {orderBy : List OrderItem}
      {limit : Option Expr} {window : Option WindowSpec}
      (aggregate : Aggregates dialect head.name) :
      Shields dialect (.expr (.call head arguments orderBy limit window))
  | window {head : CallHead} {arguments : List Expr} {orderBy : List OrderItem}
      {limit : Option Expr} {window : WindowSpec} :
      Shields dialect (.expr (.call head arguments orderBy limit (some window)))

/-- A reference needs no further grouping: it is a constant that reads like a column, or the path, the
column or the structure around it is a key. -/
def Covered (block : SelectBlock) (ref : ColumnRef) : Prop :=
  (ref.table = "" ∧ ref.fields = [] ∧ Text.fold ref.column ∈
      ["current_date", "current_datetime", "current_time", "current_timestamp"]) ∨
    NameKey block (Text.fold ref.name) ∨ NameKey block (Text.fold ref.column) ∨
    ref.table ≠ "" ∧ NameKey block (Text.fold ref.table)

/-- At an address in an expression, a reference outside of aggregates, calls over windows and nested
queries is not grouped. -/
structure Ungrouped (dialect : Option Dialect) (block : SelectBlock) (expr : Expr)
    (address : List Nat) (ref : ColumnRef) : Prop where
  found : (Node.expr expr).at? address = some (.expr (.column ref))
  unshielded : ∀ above, above <+: address → ∀ node ∈ (Node.expr expr).at? above, ¬Shields dialect node
  uncovered : ¬Covered block ref

section Reading

variable {dialect : Option Dialect} {block : SelectBlock} {expr : Expr} {address : List Nat}
  {ref : ColumnRef}

theorem isAggregate_iff {name : String} :
    isAggregate dialect name = true ↔ Aggregates dialect name := by
  rw [isAggregate, Bool.or_eq_true, List.contains_iff_mem, Option.any_eq_true]
  rfl

theorem entersNode_iff {node : Node} : entersNode dialect node = true ↔ ¬Shields dialect node := by
  constructor
  · rintro entered (_ | aggregate | _)
    · cases entered
    · simp [entersNode, isAggregate_iff.2 aggregate] at entered
    · simp [entersNode] at entered
  · intro unshielded
    unfold entersNode
    split
    · exact absurd .query unshielded
    · next head arguments orderBy limit window =>
      rw [Bool.and_eq_true, Option.isNone_iff_eq_none, Bool.not_eq_true', Bool.eq_false_iff]
      constructor
      · cases window with
        | none => rfl
        | some spec => exact absurd .window unshielded
      · exact fun known => unshielded (.aggregate (isAggregate_iff.1 known))
    · rfl

theorem covers_iff : (Keys.ofBlock block).covers ref = true ↔ Covered block ref := by
  simp only [Keys.covers, constants, Covered, Bool.or_eq_true, Bool.and_eq_true, List.contains_iff_mem,
    Keys.mem_ofBlock_names, Bool.not_eq_true', String.isEmpty_iff, List.isEmpty_iff, or_assoc, and_assoc,
    String.isEmpty_eq_false_iff]

def ungrouped (dialect : Option Dialect) (keys : Keys) (expr : Expr) : List (List Nat × ColumnRef) :=
  ((Node.expr expr).visits (entersNode dialect)).filterMap fun (address, node) =>
    (node.columnRef?.filter (!keys.covers ·)).map (address, ·)

theorem mem_ungrouped :
    (address, ref) ∈ ungrouped dialect (Keys.ofBlock block) expr ↔
      Ungrouped dialect block expr address ref := by
  have listed : (address, ref) ∈ ungrouped dialect (Keys.ofBlock block) expr ↔
      (address, .expr (.column ref)) ∈ (Node.expr expr).visits (entersNode dialect) ∧
        ¬Covered block ref := by
    simp only [ungrouped, List.mem_filterMap, Prod.exists, Option.map_eq_some_iff, Prod.mk.injEq,
      Option.filter_eq_some_iff, Bool.not_eq_true', Bool.eq_false_iff, ne_eq, covers_iff]
    constructor
    · rintro ⟨_, node, visited, _, ⟨found, uncovered⟩, rfl, rfl⟩
      rw [Node.eq_of_columnRef? found] at visited
      exact ⟨visited, uncovered⟩
    · rintro ⟨visited, uncovered⟩
      exact ⟨address, _, visited, ref, ⟨rfl, uncovered⟩, rfl, rfl⟩
  rw [listed, Node.mem_visits]
  constructor
  · rintro ⟨⟨found, entered⟩, uncovered⟩
    refine ⟨found, fun above before node here shields => ?_, uncovered⟩
    by_cases same : above = address
    · cases (same ▸ found).symm.trans here
      cases shields
    · exact entersNode_iff.1 (entered above before same node here) shields
  · rintro ⟨found, unshielded, uncovered⟩
    exact ⟨⟨found, fun above before _ node here =>
      entersNode_iff.2 (unshielded above before node here)⟩, uncovered⟩

theorem ungrouped_increasing (keys : Keys) :
    (ungrouped dialect keys expr).Pairwise fun first second => first.1 < second.1 := by
  refine (Node.visits_increasing _ _).filterMap _ fun first second earlier placed found other also => ?_
  obtain ⟨_, -, rfl⟩ := Option.map_eq_some_iff.1 found
  obtain ⟨_, -, rfl⟩ := Option.map_eq_some_iff.1 also
  exact earlier

theorem firstUngrouped?_eq (keys : Keys) :
    firstUngrouped? dialect keys expr = (ungrouped dialect keys expr).head?.map Prod.snd := by
  rw [firstUngrouped?, ← List.head?_filter, ← Node.visits_nodes, ← List.head?_map]
  congr 1
  rw [ungrouped, List.map_filterMap, List.filterMap_map, List.filter_filterMap]
  refine List.filterMap_congr fun visit _ => ?_
  rw [Option.map_map]
  exact (congrFun Option.map_id _).symm

theorem head?_eq_some_iff {entries : List (List Nat × ColumnRef)} {entry : List Nat × ColumnRef}
    (increasing : entries.Pairwise fun first second => first.1 < second.1) :
    entries.head? = some entry ↔ entry ∈ entries ∧ ∀ other ∈ entries, entry.1 ≤ other.1 := by
  cases increasing with
  | nil => simp
  | @cons first rest before =>
    rw [List.head?_cons, Option.some.injEq]
    constructor
    · rintro rfl
      refine ⟨List.mem_cons_self, fun other member => ?_⟩
      rcases List.mem_cons.1 member with rfl | later
      · exact le_rfl
      · exact (before other later).le
    · rintro ⟨member, least⟩
      rcases List.mem_cons.1 member with rfl | later
      · rfl
      · exact absurd (before entry later) (least first List.mem_cons_self).not_gt

/-- The rule stops at the ungrouped reference with the smallest address. -/
theorem firstUngrouped?_eq_some_iff :
    firstUngrouped? dialect (Keys.ofBlock block) expr = some ref ↔
      ∃ address, Ungrouped dialect block expr address ref ∧
        ∀ other also, Ungrouped dialect block expr other also → address ≤ other := by
  simp only [← mem_ungrouped, firstUngrouped?_eq, Option.map_eq_some_iff, Prod.exists,
    exists_eq_right, head?_eq_some_iff (ungrouped_increasing _), Prod.forall]

theorem firstUngrouped?_isSome_iff :
    (firstUngrouped? dialect (Keys.ofBlock block) expr).isSome ↔
      ∃ address ref, Ungrouped dialect block expr address ref := by
  simp only [← mem_ungrouped, firstUngrouped?_eq, Option.isSome_map, List.isSome_head?]
  constructor
  · intro some
    obtain ⟨⟨address, ref⟩, member⟩ := List.exists_mem_of_ne_nil _ some
    exact ⟨address, ref, member⟩
  · rintro ⟨address, ref, member⟩
    exact List.ne_nil_of_mem member

end Reading

/-! ### Items -/

/-- The item at a place, counted from zero, has to be grouped: it is an expression, and neither its place
in the select list nor its alias is a key. -/
def Governed (block : SelectBlock) (number : Nat) (expr : Expr) : Prop :=
  block.groupBy ≠ [] ∧ ∃ span aliasName aliasSpan,
    block.items[number]? = some (.expr span expr aliasName aliasSpan) ∧
      ¬OrdinalKey block (number + 1) ∧ (aliasName ≠ "" → ¬NameKey block (Text.fold aliasName))

/-- The item at a place reads a column once per group that is not grouped. -/
def Flagged (dialect : Option Dialect) (block : SelectBlock) (number : Nat) : Prop :=
  ∃ expr, Governed block number expr ∧ ∃ address ref, Ungrouped dialect block expr address ref

/-- The item at a place is reported, at the ungrouped reference that comes first. -/
def Reported (dialect : Option Dialect) (block : SelectBlock) (number : Nat) (ref : ColumnRef) : Prop :=
  ∃ expr, Governed block number expr ∧ ∃ address, Ungrouped dialect block expr address ref ∧
    ∀ other also, Ungrouped dialect block expr other also → address ≤ other

section Items

variable {dialect : Option Dialect} {block : SelectBlock} {number : Nat} {ref : ColumnRef}

theorem exists_reported_iff :
    (∃ ref, Reported dialect block number ref) ↔ Flagged dialect block number := by
  simp only [Reported, Flagged, ← firstUngrouped?_eq_some_iff, ← firstUngrouped?_isSome_iff,
    Option.isSome_iff_exists]
  exact ⟨fun ⟨ref, expr, governed, first⟩ => ⟨expr, governed, ref, first⟩,
    fun ⟨expr, governed, ref, first⟩ => ⟨ref, expr, governed, first⟩⟩

def reportedAt? (dialect : Option Dialect) (keys : Keys) (item : SelectItem) (number : Nat) :
    Option ColumnRef :=
  match item with
  | .expr _ expr aliasName _ =>
    if keys.ordinals.contains (number + 1) ||
        (!aliasName.isEmpty && keys.names.contains (Text.fold aliasName)) then none
    else firstUngrouped? dialect keys expr
  | _ => none

theorem checkItem?_eq (keys : Keys) (item : SelectItem) :
    checkItem? dialect keys item number =
      (reportedAt? dialect keys item number).map fun ref => ⟨message ref, ref.span⟩ := by
  cases item with
  | expr =>
    simp only [checkItem?, reportedAt?]
    split <;> rfl
  | star | tableStar => rfl

theorem reportedAt?_eq_some_iff {item : SelectItem} :
    reportedAt? dialect (Keys.ofBlock block) item number = some ref ↔
      ∃ span expr aliasName aliasSpan, item = .expr span expr aliasName aliasSpan ∧
        ¬OrdinalKey block (number + 1) ∧ (aliasName ≠ "" → ¬NameKey block (Text.fold aliasName)) ∧
        firstUngrouped? dialect (Keys.ofBlock block) expr = some ref := by
  unfold reportedAt?
  split
  case h_1 span expr aliasName aliasSpan =>
    have isKey : ((Keys.ofBlock block).ordinals.contains (number + 1) ||
          (!aliasName.isEmpty && (Keys.ofBlock block).names.contains (Text.fold aliasName))) = true ↔
        OrdinalKey block (number + 1) ∨ aliasName ≠ "" ∧ NameKey block (Text.fold aliasName) := by
      rw [Bool.or_eq_true, Bool.and_eq_true, Bool.not_eq_true', String.isEmpty_eq_false_iff,
        List.contains_iff_mem, List.contains_iff_mem, Keys.mem_ofBlock_ordinals, Keys.mem_ofBlock_names]
    simp only [Option.ite_none_left_eq_some, isKey, not_or, not_and, SelectItem.expr.injEq, and_assoc]
    grind
  case h_2 other =>
    refine iff_of_false nofun ?_
    rintro ⟨span, expr, aliasName, aliasSpan, rfl, -⟩
    exact other span expr aliasName aliasSpan rfl

def reports (dialect : Option Dialect) (block : SelectBlock) : List (Nat × ColumnRef) :=
  if block.groupBy.isEmpty then []
  else block.items.zipIdx.filterMap fun (item, number) =>
    (reportedAt? dialect (Keys.ofBlock block) item number).map (number, ·)

theorem checkBlock_eq : checkBlock dialect block =
    (reports dialect block).map fun (_, ref) => ⟨message ref, ref.span⟩ := by
  unfold checkBlock reports
  split
  · rfl
  · rw [List.map_filterMap]
    refine List.filterMap_congr fun (item, number) _ => ?_
    rw [Option.map_map]
    exact checkItem?_eq _ _

theorem mem_reports : (number, ref) ∈ reports dialect block ↔ Reported dialect block number ref := by
  unfold reports Reported Governed
  simp only [← firstUngrouped?_eq_some_iff]
  split
  next none => simp [List.isEmpty_iff.1 none]
  next some =>
    rw [List.isEmpty_iff] at some
    simp only [List.mem_filterMap, Prod.exists, List.mk_mem_zipIdx_iff_getElem?, Option.map_eq_some_iff,
      Prod.mk.injEq, reportedAt?_eq_some_iff]
    constructor
    · rintro ⟨_, _, listed, _, ⟨span, expr, aliasName, aliasSpan, rfl, ordinal, name, first⟩, rfl, rfl⟩
      exact ⟨expr, ⟨some, span, aliasName, aliasSpan, listed, ordinal, name⟩, first⟩
    · rintro ⟨expr, ⟨-, span, aliasName, aliasSpan, listed, ordinal, name⟩, first⟩
      exact ⟨_, _, listed, ref, ⟨span, expr, aliasName, aliasSpan, rfl, ordinal, name, first⟩, rfl, rfl⟩

theorem reports_increasing :
    (reports dialect block).Pairwise fun first second => first.1 < second.1 := by
  unfold reports
  split
  · exact .nil
  · refine (numbers_increasing _).filterMap _ fun first second earlier report found other also => ?_
    obtain ⟨_, -, rfl⟩ := Option.map_eq_some_iff.1 found
    obtain ⟨_, -, rfl⟩ := Option.map_eq_some_iff.1 also
    exact earlier

/-! ### More keys -/

variable {more : List Expr} {expr : Expr}

theorem Covered.mono (included : block.groupBy ⊆ more) (covered : Covered block ref) :
    Covered { block with groupBy := more } ref := by
  have keeps : ∀ {name}, NameKey block name → NameKey { block with groupBy := more } name :=
    fun ⟨expr, member, makes⟩ => ⟨expr, included member, makes⟩
  exact covered.imp_right (Or.imp keeps (Or.imp keeps (And.imp_right keeps)))

/-- An item that is reported with more keys is reported with fewer. -/
theorem Flagged.of_more (grouped : block.groupBy ≠ []) (included : block.groupBy ⊆ more)
    (flagged : Flagged dialect { block with groupBy := more } number) :
    Flagged dialect block number := by
  obtain ⟨expr, ⟨-, span, aliasName, aliasSpan, listed, ordinal, name⟩, address, ref, reads⟩ := flagged
  refine ⟨expr, ⟨grouped, span, aliasName, aliasSpan, listed, ?_, ?_⟩, address, ref, reads.found,
    reads.unshielded, fun covered => reads.uncovered (covered.mono included)⟩
  · exact fun ⟨expr, member, makes⟩ => ordinal ⟨expr, included member, makes⟩
  · exact fun named ⟨expr, member, makes⟩ => name named ⟨expr, included member, makes⟩

end Items

/-! ### Queries -/

/-- What is reported in a query: the addresses of blocks, the places of items in them and the references
that the items are reported at. -/
def placedReports (dialect : Option Dialect) (query : Query) : List (List Nat × Nat × ColumnRef) :=
  (Node.query query).placedBlocks.flatMap fun (address, block) =>
    (reports dialect block).map (address, ·)

section Queries

variable {dialect : Option Dialect} {query : Query} {address : List Nat} {number : Nat} {ref : ColumnRef}

theorem mem_placedReports :
    (address, number, ref) ∈ placedReports dialect query ↔
      ∃ block, (Node.query query).at? address = some (.block block) ∧
        Reported dialect block number ref := by
  simp only [placedReports, List.mem_flatMap, List.mem_map, Prod.exists, Prod.mk.injEq,
    Node.mem_placedBlocks, ← mem_reports]
  grind

theorem placedReports_nodup :
    ((placedReports dialect query).map fun (address, number, _) => (address, number)).Nodup := by
  rw [List.nodup_iff_pairwise_ne, List.pairwise_map, placedReports, List.pairwise_flatMap]
  constructor
  · rintro ⟨address, block⟩ -
    rw [List.pairwise_map]
    exact reports_increasing.imp fun earlier same => earlier.ne (Prod.mk.inj same).2
  · refine (Node.placedBlocks_increasing _).imp fun earlier report inFirst other inSecond same => ?_
    obtain ⟨_, -, rfl⟩ := List.mem_map.1 inFirst
    obtain ⟨_, -, rfl⟩ := List.mem_map.1 inSecond
    exact earlier.ne (Prod.mk.inj same).1

theorem check_eq (settings : Settings) : check query dialect settings =
    (placedReports dialect query).map fun (_, _, ref) => ⟨message ref, ref.span⟩ := by
  rw [check, Query.blocks, ← Node.placedBlocks_blocks, List.flatMap_map, placedReports, List.map_flatMap]
  refine List.flatMap_congr fun placed _ => ?_
  rw [List.map_map]
  exact checkBlock_eq

end Queries

/-- The rule reports the items of grouped blocks that read an ungrouped column once per group, each of
them once and at the first such column; further keys only ever take reports away. -/
theorem check_flagged_items (dialect : Option Dialect) (query : Query) (settings : Settings) :
    (∃ reports : List (List Nat × Nat × ColumnRef),
      (reports.map fun (address, number, _) => (address, number)).Nodup ∧
      (∀ address number, (∃ ref, (address, number, ref) ∈ reports) ↔
        ∃ block, (Node.query query).at? address = some (.block block) ∧ Flagged dialect block number) ∧
      (∀ address number ref, (address, number, ref) ∈ reports →
        ∃ block, (Node.query query).at? address = some (.block block) ∧
          Reported dialect block number ref) ∧
      check query dialect settings = reports.map fun (_, _, ref) => ⟨message ref, ref.span⟩) ∧
    ∀ (block : SelectBlock) (more : List Expr) (number : Nat), block.groupBy ≠ [] →
      block.groupBy ⊆ more → ¬Flagged dialect block number →
        ¬Flagged dialect { block with groupBy := more } number := by
  refine ⟨⟨placedReports dialect query, placedReports_nodup, fun address number => ?_,
    fun address number ref => mem_placedReports.1, check_eq settings⟩,
    fun block more number grouped included kept flagged => kept (flagged.of_more grouped included)⟩
  simp only [mem_placedReports, ← exists_reported_iff]
  exact ⟨fun ⟨ref, block, found, reported⟩ => ⟨block, found, ref, reported⟩,
    fun ⟨block, found, ref, reported⟩ => ⟨ref, block, found, reported⟩⟩

end QueryLint.Grouping
