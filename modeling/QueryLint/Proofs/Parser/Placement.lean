import QueryLint.Proofs.Parser.Gives

/-!
Where the parts of a tree stand. The span of a part covers a range of tokens, from the start of
its first to the end of its last one, and the parts below it cover ranges inside that range. A
part that was read without an error is also whole: nothing that belongs to it is missing.
-/

namespace QueryLint

/-- What carries a span in a tree: a node, or an item of a select block. -/
inductive Part where
  | node (node : Node)
  | item (item : SelectItem)

def SelectBlock.clauseNodes (block : SelectBlock) : List Node :=
  block.source.toList.map .source ++ optionNodes block.filter ++ exprNodes block.groupBy ++
    optionNodes block.having ++ block.windows.map (fun window => .window window.spec) ++
    optionNodes block.qualify ++ orderNodes block.orderBy ++ optionNodes block.limit ++
    optionNodes block.offset ++ exprNodes block.extensions

namespace Part

def span : Part → Span
  | .node n => n.span
  | .item i => i.span

def children : Part → List Part
  | .node (.block b) => b.items.map .item ++ b.clauseNodes.map .node
  | .node n => n.children.map .node
  | .item i => i.nodes.map .node

inductive Below : Part → Part → Prop
  | self (part : Part) : Below part part
  | child {part child descendant : Part} : child ∈ part.children → Below child descendant →
      Below part descendant

end Part

/-! ### Whole parts -/

def ExprsRead (exprs : List Expr) : Prop := ∀ e ∈ exprs, e.isMissing = false

def OrderRead (items : List OrderItem) : Prop := ∀ item ∈ items, item.expr.isMissing = false

def NamedRead (items : List NamedExpr) : Prop := ∀ item ∈ items, item.expr.isMissing = false

def OptionRead (expr : Option Expr) : Prop := ∀ e ∈ expr, e.isMissing = false

def TableRef.isMissing : TableRef → Bool
  | .missing => true
  | _ => false

def StarModifier.Whole : StarModifier → Prop
  | .except _ => True
  | .replace items => NamedRead items

def FrameBound.takesOffset : FrameBound → Bool
  | .offsetPreceding | .offsetFollowing => true
  | .unboundedPreceding | .unboundedFollowing | .currentRow => false

/-- The bounds of a frame have an offset exactly when their kind takes one. -/
def Frame.Fits : Option Frame → Option Expr → Option Expr → Prop
  | none, first, last => first = none ∧ last = none
  | some frame, first, last =>
    first.isSome = frame.first.takesOffset ∧ last.isSome = frame.last.any FrameBound.takesOffset

def Expr.Whole : Expr → Prop
  | .missing => False
  | .column _ | .literal _ | .star .. | .subquery .. | .exists .. => True
  | .binary _ left _ right => left.isMissing = false ∧ right.isMissing = false
  | .unary _ _ operand | .cast _ operand _ _ | .isNull _ operand _ | .isBool _ operand _ _
  | .paren _ operand | .field _ operand _ | .extract _ _ operand | .interval _ operand _ _
  | .inQuery _ operand _ _ => operand.isMissing = false
  | .call _ arguments orderBy limit _ => ExprsRead arguments ∧ OrderRead orderBy ∧ OptionRead limit
  | .case _ operand branches otherwise =>
    OptionRead operand ∧ branches ≠ [] ∧
      (∀ branch ∈ branches, branch.condition.isMissing = false ∧ branch.result.isMissing = false) ∧
      OptionRead otherwise
  | .inValues _ operand _ values => operand.isMissing = false ∧ values ≠ [] ∧ ExprsRead values
  | .inUnnest _ operand _ set => operand.isMissing = false ∧ set.isMissing = false
  | .between _ operand _ low high =>
    operand.isMissing = false ∧ low.isMissing = false ∧ high.isMissing = false
  | .like _ operand _ pattern => operand.isMissing = false ∧ pattern.isMissing = false
  | .struct _ _ fields => NamedRead fields
  | .array _ _ elements => ExprsRead elements
  | .index _ operand place _ => operand.isMissing = false ∧ place.isMissing = false

def TableRef.Whole : TableRef → Prop
  | .missing => False
  | .table _ | .derived .. => True
  | .function _ call _ _ _ => call.isMissing = false
  | .pivot _ source aggregates _ values _ =>
    source.isMissing = false ∧ NamedRead aggregates ∧ NamedRead values
  | .unpivot _ source _ _ _ _ => source.isMissing = false

def WindowSpec.Whole (window : WindowSpec) : Prop :=
  ExprsRead window.partitionBy ∧ OrderRead window.orderBy ∧ OptionRead window.firstOffset ∧
    OptionRead window.lastOffset ∧ Frame.Fits window.frame window.firstOffset window.lastOffset

/-- A block selects something, and every clause that was read is there. -/
def SelectBlock.Whole (block : SelectBlock) : Prop :=
  block.items ≠ [] ∧ OptionRead block.filter ∧ ExprsRead block.groupBy ∧
    OptionRead block.having ∧ OptionRead block.qualify ∧ OrderRead block.orderBy ∧
    OptionRead block.limit ∧ OptionRead block.offset ∧ ExprsRead block.extensions

/-- A join has a source, and a condition or common columns, but not both. -/
def Join.Whole (join : Join) : Prop :=
  join.right.isMissing = false ∧ OptionRead join.condition ∧
    (join.condition.isSome → join.columns = [])

def SelectItem.Whole : SelectItem → Prop
  | .star _ modifiers => ∀ modifier ∈ modifiers, modifier.Whole
  | .tableStar _ table modifiers => table.isEmpty = false ∧ ∀ modifier ∈ modifiers, modifier.Whole
  | .expr _ e _ _ => e.isMissing = false

def Part.Whole : Part → Prop
  | .node (.query _) | .node (.definitions _) | .node (.cte _) | .node (.body _) => True
  | .node (.block b) => b.Whole
  | .node (.source s) => s.source.isMissing = false
  | .node (.join j) => j.Whole
  | .node (.table t) => t.Whole
  | .node (.window w) => w.Whole
  | .node (.expr e) => e.Whole
  | .item i => i.Whole

/-! ### Ranges of tokens -/

/-- The span of the tokens from one index up to but not including another. -/
def ParserInput.cover (input : ParserInput) (i j : Nat) : Span :=
  ⟨(input.token i).span.start, (input.token (j - 1)).span.stop⟩

theorem ParserInput.cover_one (input : ParserInput) (i : Nat) :
    input.cover i (i + 1) = (input.token i).span := by
  rw [ParserInput.cover, Nat.add_sub_cancel]

/-- A whole part that covers a range of tokens inside the given one, with everything below it inside
its own range. -/
inductive Within (input : ParserInput) : Nat → Nat → Part → Prop
  | intro {lo hi i j : Nat} {part : Part} (after : lo ≤ i) (nonempty : i < j) (before : j ≤ hi)
      (covers : part.span = input.cover i j) (whole : part.Whole)
      (below : ∀ child ∈ part.children, Within input i j child) : Within input lo hi part

/-- A whole part that covers exactly the given range of tokens. -/
structure Covers (input : ParserInput) (i j : Nat) (part : Part) : Prop where
  nonempty : i < j
  span : part.span = input.cover i j
  whole : part.Whole
  below : ∀ child ∈ part.children, Within input i j child

variable {input : ParserInput} {i i' j j' : Nat} {part : Part}

theorem Covers.within (covers : Covers input i' j' part) (after : i ≤ i') (before : j' ≤ j) :
    Within input i j part :=
  ⟨after, covers.nonempty, before, covers.span, covers.whole, covers.below⟩

theorem Within.widen (within : Within input i' j' part) (after : i ≤ i') (before : j' ≤ j) :
    Within input i j part := by
  cases within with
  | intro after' nonempty before' covers whole below =>
    exact ⟨Nat.le_trans after after', nonempty, Nat.le_trans before' before, covers, whole, below⟩

def AllWithin (input : ParserInput) (i j : Nat) (nodes : List Node) : Prop :=
  ∀ node ∈ nodes, Within input i j (.node node)

/-- An expression that was read in a range of tokens. -/
def Expr.Placed (input : ParserInput) (i j : Nat) (e : Expr) : Prop :=
  e.isMissing = false ∧ Within input i j (.node (.expr e))

def TableRef.Placed (input : ParserInput) (i j : Nat) (table : TableRef) : Prop :=
  table.isMissing = false ∧ Within input i j (.node (.table table))

def Expr.Covers (input : ParserInput) (i j : Nat) (e : Expr) : Prop :=
  e.isMissing = false ∧ QueryLint.Covers input i j (.node (.expr e))

def TableRef.Covers (input : ParserInput) (i j : Nat) (table : TableRef) : Prop :=
  table.isMissing = false ∧ QueryLint.Covers input i j (.node (.table table))

theorem Expr.Covers.placed {e : Expr} (covers : e.Covers input i' j') (after : i ≤ i')
    (before : j' ≤ j) : e.Placed input i j :=
  ⟨covers.1, covers.2.within after before⟩

theorem TableRef.Covers.placed {table : TableRef} (covers : table.Covers input i' j')
    (after : i ≤ i') (before : j' ≤ j) : table.Placed input i j :=
  ⟨covers.1, covers.2.within after before⟩

theorem Expr.Placed.widen {e : Expr} (placed : e.Placed input i' j') (after : i ≤ i')
    (before : j' ≤ j) : e.Placed input i j :=
  ⟨placed.1, placed.2.widen after before⟩

/-- A span that begins with an expression and ends with a later token covers what is between. -/
theorem Expr.Covers.extend {e : Expr} (covers : e.Covers input i j) {span : Span} {k : Nat}
    (later : j ≤ k)
    (spanned : 0 < k → span = ⟨e.span.start, (input.token (k - 1)).span.stop⟩) :
    span = input.cover i k := by
  have nonempty := covers.2.nonempty
  have own : e.span = input.cover i j := covers.2.span
  rw [spanned (by omega), own]
  rfl

theorem TableRef.Covers.extend {table : TableRef} (covers : table.Covers input i j) {span : Span}
    {k : Nat} (later : j ≤ k)
    (spanned : 0 < k → span = ⟨table.span.start, (input.token (k - 1)).span.stop⟩) :
    span = input.cover i k := by
  have nonempty := covers.2.nonempty
  have own : table.span = input.cover i j := covers.2.span
  rw [spanned (by omega), own]
  rfl

theorem Expr.present_eq (e : Expr) (present : e.isMissing = false) : e.present = [.expr e] := by
  cases e with
  | missing => cases present
  | _ => rfl

/-! ### Lists of nodes -/

@[simp] theorem allWithin_nil : AllWithin input i j [] := nofun

@[simp] theorem allWithin_append {first second : List Node} :
    AllWithin input i j (first ++ second) ↔
      AllWithin input i j first ∧ AllWithin input i j second := by
  simp only [AllWithin, List.mem_append, or_imp, forall_and]

@[simp] theorem allWithin_singleton {node : Node} :
    AllWithin input i j [node] ↔ Within input i j (.node node) := by
  simp only [AllWithin, List.mem_singleton, forall_eq]

theorem AllWithin.flatMap {α : Type} {list : List α} {nodes : α → List Node}
    (all : ∀ a ∈ list, AllWithin input i j (nodes a)) : AllWithin input i j (list.flatMap nodes) := by
  intro node member
  obtain ⟨a, listed, member⟩ := List.mem_flatMap.1 member
  exact all a listed node member

theorem AllWithin.map {α : Type} {list : List α} {node : α → Node}
    (all : ∀ a ∈ list, Within input i j (.node (node a))) :
    AllWithin input i j (list.map node) := by
  intro n member
  obtain ⟨a, listed, rfl⟩ := List.mem_map.1 member
  exact all a listed

theorem Expr.Placed.present {e : Expr} (placed : e.Placed input i j) :
    AllWithin input i j e.present := by
  intro node member
  rw [Expr.eq_of_mem_present member]
  exact placed.2

theorem TableRef.Placed.present {table : TableRef} (placed : table.Placed input i j) :
    AllWithin input i j table.present := by
  intro node member
  rw [TableRef.eq_of_mem_present member]
  exact placed.2

theorem allWithin_exprNodes {exprs : List Expr} (placed : ∀ e ∈ exprs, e.Placed input i j) :
    AllWithin input i j (exprNodes exprs) :=
  .flatMap fun e member => (placed e member).present

theorem allWithin_optionNodes {expr : Option Expr} (placed : ∀ e ∈ expr, e.Placed input i j) :
    AllWithin input i j (optionNodes expr) :=
  allWithin_exprNodes fun e member => placed e (Option.mem_toList.1 member)

theorem allWithin_orderNodes {items : List OrderItem}
    (placed : ∀ item ∈ items, item.expr.Placed input i j) :
    AllWithin input i j (orderNodes items) :=
  .flatMap fun item member => (placed item member).present

theorem allWithin_namedNodes {items : List NamedExpr}
    (placed : ∀ item ∈ items, item.expr.Placed input i j) :
    AllWithin input i j (namedNodes items) :=
  .flatMap fun item member => (placed item member).present

theorem allWithin_branchNodes {branches : List CaseBranch}
    (placed : ∀ branch ∈ branches,
      branch.condition.Placed input i j ∧ branch.result.Placed input i j) :
    AllWithin input i j (branchNodes branches) :=
  .flatMap fun branch member =>
    allWithin_append.2 ⟨(placed branch member).1.present, (placed branch member).2.present⟩

theorem allWithin_columnNodes {columns : List ColumnRef}
    (placed : ∀ ref ∈ columns, Within input i j (.node (.expr (.column ref)))) :
    AllWithin input i j (columnNodes columns) :=
  .map placed

theorem Covers.node {node : Node} (nonempty : i < j) (span : node.span = input.cover i j)
    (whole : (Part.node node).Whole) (below : AllWithin input i j node.children)
    (notBlock : ∀ block, node ≠ .block block) : Covers input i j (.node node) := by
  refine ⟨nonempty, span, whole, fun child member => ?_⟩
  have same : (Part.node node).children = node.children.map .node := by
    cases node with
    | block block => exact absurd rfl (notBlock block)
    | _ => rfl
  rw [same] at member
  obtain ⟨n, listed, rfl⟩ := List.mem_map.1 member
  exact below n listed

theorem Expr.Covers.intro {e : Expr} (nonempty : i < j) (span : e.span = input.cover i j)
    (whole : e.Whole) (below : AllWithin input i j e.children) : e.Covers input i j := by
  refine ⟨?_, .node nonempty span whole below nofun⟩
  cases e with
  | missing => exact whole.elim
  | _ => rfl

theorem TableRef.Covers.intro {table : TableRef} (nonempty : i < j)
    (span : table.span = input.cover i j) (whole : table.Whole)
    (below : AllWithin input i j table.children) : table.Covers input i j := by
  refine ⟨?_, .node nonempty span whole below nofun⟩
  cases table with
  | missing => exact whole.elim
  | _ => rfl

/-! ### Reading spans -/

namespace Parser

variable {α : Type} {s : ParserState} {T : α → ParserState → Prop}

theorem Gives.span {start : Position} {f : Span → Parser α}
    (rest : ∀ span, (0 < s.index → span = ⟨start, (input.token (s.index - 1)).span.stop⟩) →
      Gives input s (f span) T) : Gives input s (spanFrom start >>= f) T := by
  refine .look rfl (rest _ fun started => ?_)
  rw [if_neg (by omega)]

end Parser

namespace Attempt

variable {α : Type} {s : ParserState} {T : α → ParserState → Prop}

theorem Gives.span {start : Position} {f : Span → Attempt α}
    (rest : ∀ span, (0 < s.index → span = ⟨start, (input.token (s.index - 1)).span.stop⟩) →
      Gives input s (f span) T) : Gives input s (liftM (Parser.spanFrom start) >>= f) T := by
  refine .look rfl (rest _ fun started => ?_)
  rw [if_neg (by omega)]

end Attempt

end QueryLint
