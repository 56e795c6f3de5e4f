import QueryLint.Syntax.Walk
import QueryLint.Usage.Model

/-!
Building the model of a statement in one pass over its tree. A named query is defined after its
own query has been visited, so that it sees only the definitions before it. References are resolved
against the scopes around them and mark the columns that they reach. The definitions of a nested
query stay in the model, but their names end with that query.
-/

namespace QueryLint.Usage

def renameColumns : List Column → List String → List Column
  | column :: columns, name :: names =>
    { column with name, anonymous := false, mirrored := false } :: renameColumns columns names
  | columns, _ => columns

def implicitName : Expr → String
  | .column ref => ref.fields.getLastD ref.column
  | .field _ _ name => name
  | _ => ""

/-- The output column of an item that is no star, where `anonymous` columns without a name stand
before it; whether it is one of them is the second component. -/
def defineColumn (expr : Expr) (aliasName : String) (anonymous : Nat) : Column × Bool :=
  if !aliasName.isEmpty then ({ name := aliasName, span := expr.span }, false)
  else if !(implicitName expr).isEmpty then
    ({ name := implicitName expr, span := expr.span }, false)
  else
    ({ name := "f" ++ toString anonymous ++ "_", span := expr.span, anonymous := true }, true)

def definedNames : Option WithClause → List String
  | none => []
  | some ⟨_, _, ctes⟩ => ctes.map (·.name)

/-- The nodes of a block whose references are read before its select items. The ordering is read
only if it can be observed. -/
def clauseNodes (block : SelectBlock) (ordered : Bool) : List Node :=
  optionNodes block.filter ++ exprNodes block.groupBy ++ optionNodes block.having ++
    block.windows.map (fun window => .window window.spec) ++ optionNodes block.qualify ++
    if ordered then orderNodes block.orderBy else []

def pivotNodes (aggregates : List NamedExpr) (forColumn : ColumnRef) (values : List NamedExpr) :
    List Node :=
  namedNodes aggregates ++ columnNodes [forColumn] ++ namedNodes values

theorem size_lt_of_mem_clauseNodes {block : SelectBlock} {ordered : Bool} {node : Node}
    (h : node ∈ clauseNodes block ordered) : node.size < sizeOf block := by
  apply block.size_lt_of_mem_children
  unfold SelectBlock.children
  unfold clauseNodes at h
  cases ordered <;> simp only [List.mem_append, Bool.false_eq_true, if_false, if_true,
    List.not_mem_nil, or_false] at h ⊢ <;> grind

theorem size_lt_of_mem_pivotNodes {span : Span} {source : TableRef} {aggregates : List NamedExpr}
    {forColumn : ColumnRef} {values : List NamedExpr} {aliasName : String} {node : Node}
    (h : node ∈ pivotNodes aggregates forColumn values) :
    node.size < sizeOf (TableRef.pivot span source aggregates forColumn values aliasName) := by
  apply TableRef.size_lt_of_mem_children
  simp only [TableRef.children, pivotNodes, List.mem_append] at h ⊢
  grind

theorem size_lt_of_mem_joinNodes {condition : Option Expr} {columns : List ColumnRef} {node : Node}
    (h : node ∈ optionNodes condition ++ columnNodes columns) :
    node.size < sizeOf condition + sizeOf columns + 1 := by
  rcases List.mem_append.1 h with h | h
  · have := size_lt_of_mem_optionNodes h; omega
  · have := size_lt_of_mem_columnNodes h; omega

theorem size_lt_of_source_eq_some {block : SelectBlock} {source : FromClause}
    (h : block.source = some source) : sizeOf source < sizeOf block := by
  cases block
  simp only at h
  subst h
  simp only [SelectBlock.mk.sizeOf_spec, Option.some.sizeOf_spec]
  omega

theorem size_items_lt (block : SelectBlock) : sizeOf block.items < sizeOf block := by
  cases block
  simp only [SelectBlock.mk.sizeOf_spec]
  omega

mutual

/-- Visits a query and gives the columns of its first operand. `final` says that the order of its
rows can be observed. The names that the query defines refer afterwards to what they did before. -/
def statement (chain : ScopeChain) (final : Bool) (query : Query) (model : Model) :
    Model × List Column :=
  match query with
  | ⟨_, definitions, body⟩ =>
    let saved := model.saveNames (definedNames definitions)
    let (after, columns) := bodyColumns chain final true body (define definitions model)
    (after.restoreNames saved, columns)
termination_by (sizeOf query, 0)

def define (definitions : Option WithClause) (model : Model) : Model :=
  match definitions with
  | none => model
  | some ⟨_, _, ctes⟩ => defineAll ctes model
termination_by (sizeOf definitions, 0)

def defineAll (ctes : List Cte) (model : Model) : Model :=
  match ctes with
  | [] => model
  | ⟨_, name, nameSpan, _, none⟩ :: rest =>
    defineAll rest (model.register { name, nameSpan, columns := [] })
  | ⟨_, name, nameSpan, names, some query⟩ :: rest =>
    let (after, columns) := statement [] false query model
    defineAll rest (after.register { name, nameSpan, columns := renameColumns columns names })
termination_by (sizeOf ctes, 0)

/-- Visits the operands of a body; `first` holds for the first one, whose columns are given. An
operand in parentheses keeps an observable order only if it stands alone. -/
def bodyColumns (chain : ScopeChain) (final first : Bool) (body : QueryBody) (model : Model) :
    Model × List Column :=
  match body with
  | .single _ (.block block) => blockColumns chain final block model
  | .single _ (.nested query) => statement chain (final && first) query model
  | .combined _ (.block block) _ _ right =>
    let (after, columns) := blockColumns chain final block model
    ((bodyColumns chain final false right after).1, columns)
  | .combined _ (.nested query) _ _ right =>
    let (after, columns) := statement chain false query model
    ((bodyColumns chain final false right after).1, columns)
termination_by (sizeOf body, 0)

def blockColumns (chain : ScopeChain) (final : Bool) (block : SelectBlock) (model : Model) :
    Model × List Column :=
  let (bound, scope) := match _found : block.source with
    | none => (model, [])
    | some source => sources chain source model
  let marked := (clauseNodes block (final || block.hasLimit)).attach.foldl
    (fun model ⟨node, _⟩ => mark (scope :: chain) node model) bound
  itemColumns (scope :: chain) block.items 0 marked
termination_by (sizeOf block, 0)
decreasing_by
  · exact Prod.Lex.left _ _ (size_lt_of_source_eq_some _found)
  · exact Prod.Lex.left _ _ (size_lt_of_mem_clauseNodes ‹_›)
  · exact Prod.Lex.left _ _ (size_items_lt block)

def sources (chain : ScopeChain) (source : FromClause) (model : Model) : Model × Scope :=
  match source with
  | ⟨_, first, joins⟩ =>
    let (after, scope) := bindSource chain [] first model
    joinSources chain scope joins after
termination_by (sizeOf source, 0)

def joinSources (chain : ScopeChain) (scope : Scope) (joins : List Join) (model : Model) :
    Model × Scope :=
  match joins with
  | [] => (model, scope)
  | ⟨_, _, _, right, condition, columns⟩ :: rest =>
    let (after, scope) := bindSource chain scope right model
    let marked := (optionNodes condition ++ columnNodes columns).attach.foldl
      (fun model ⟨node, _⟩ => mark (scope :: chain) node model) after
    joinSources chain scope rest marked
termination_by (sizeOf joins, 0)
decreasing_by
  · apply Prod.Lex.left
    simp only [List.cons.sizeOf_spec, Join.mk.sizeOf_spec]
    omega
  · have := size_lt_of_mem_joinNodes ‹_›
    apply Prod.Lex.left
    simp only [List.cons.sizeOf_spec, Join.mk.sizeOf_spec]
    omega
  · apply Prod.Lex.left
    simp only [List.cons.sizeOf_spec, Join.mk.sizeOf_spec]
    omega

def bindSource (chain : ScopeChain) (scope : Scope) (source : TableRef) (model : Model) :
    Model × Scope :=
  match source with
  | .missing => (model, scope)
  | .table table =>
    let path := if table.project.isEmpty && !table.dataset.isEmpty then
        ScopeChain.resolve (scope :: chain) table.dataset else none
    if path.isSome then
      -- the path names a column of an earlier source
      (model.markRef (scope :: chain) { table := table.dataset, column := table.name },
        scope.bind table.exposedName none)
    else
      let target := if table.project.isEmpty && table.dataset.isEmpty then
          model.lookup table.name else none
      (model, scope.bind table.exposedName target)
  | .derived _ query aliasName =>
    ((statement (scope :: chain) false query model).1, scope.bind aliasName none)
  | .function _ call aliasName _ offsetAlias =>
    (mark (scope :: chain) (.expr call) model, (scope.bind aliasName none).bind offsetAlias none)
  | .pivot _ inner aggregates forColumn values aliasName =>
    let (after, own) := bindSource (scope :: chain) [] inner model
    let marked := (pivotNodes aggregates forColumn values).attach.foldl
      (fun model ⟨node, _⟩ => mark (own :: scope :: chain) node model) after
    (marked.markAll own, scope.bind aliasName none)
  | .unpivot _ inner _ _ groups aliasName =>
    let (after, own) := bindSource (scope :: chain) [] inner model
    let columns := groups.flatMap (·.columns)
    let marked := columns.foldl (·.markRef (own :: scope :: chain) ·) after
    (marked.markAll own, scope.bind aliasName none)
termination_by (sizeOf source, 0)
decreasing_by
  · apply Prod.Lex.left
    simp only [TableRef.derived.sizeOf_spec]
    omega
  · apply Prod.Lex.left
    simp only [Node.size, TableRef.function.sizeOf_spec]
    omega
  · apply Prod.Lex.left
    simp only [TableRef.pivot.sizeOf_spec]
    omega
  · exact Prod.Lex.left _ _ (size_lt_of_mem_pivotNodes ‹_›)
  · apply Prod.Lex.left
    simp only [TableRef.unpivot.sizeOf_spec]
    omega

/-- Marks every column that a reference under a node reaches. Queries under it see the scopes
around it; only the order of rows that become an array can be observed. -/
def mark (chain : ScopeChain) (node : Node) (model : Model) : Model :=
  match node with
  | .expr (.column ref) => model.markRef chain ref
  | .expr (.subquery _ query array) => (statement chain array query model).1
  | .query query => (statement chain false query model).1
  | node => node.children.attach.foldl (fun model ⟨child, _⟩ => mark chain child model) model
termination_by (node.size, 1)
decreasing_by
  · apply Prod.Lex.left
    simp only [Node.size, Expr.subquery.sizeOf_spec]
    omega
  · exact Prod.Lex.right _ (by decide)
  · exact Prod.Lex.left _ _ (Node.size_lt_of_mem_children ‹_›)

/-- Visits select items and gives the columns that they define, where `anonymous` columns without
a name stand before them. -/
def itemColumns (chain : ScopeChain) (items : List SelectItem) (anonymous : Nat) (model : Model) :
    Model × List Column :=
  match items with
  | [] => (model, [])
  | .star span modifiers :: rest =>
    let (after, columns) := starColumns chain "" span modifiers model
    let (final, others) := itemColumns chain rest anonymous after
    (final, columns ++ others)
  | .tableStar span table modifiers :: rest =>
    let (after, columns) := starColumns chain table span modifiers model
    let (final, others) := itemColumns chain rest anonymous after
    (final, columns ++ others)
  | .expr _ expr aliasName _ :: rest =>
    let after := mark chain (.expr expr) model
    let (column, unnamed) := defineColumn expr aliasName anonymous
    let (final, others) := itemColumns chain rest (if unnamed then anonymous + 1 else anonymous)
      after
    (final, column :: others)
termination_by (sizeOf items, 0)
decreasing_by
  all_goals
    apply Prod.Lex.left
    simp only [Node.size, List.cons.sizeOf_spec, SelectItem.star.sizeOf_spec,
      SelectItem.tableStar.sizeOf_spec, SelectItem.expr.sizeOf_spec]
    omega

/-- Visits a star: first the expressions that replace columns, then the columns that it reads. -/
def starColumns (chain : ScopeChain) (table : String) (span : Span)
    (modifiers : List StarModifier) (model : Model) : Model × List Column :=
  let marked := (modifiers.flatMap StarModifier.nodes).attach.foldl
    (fun model ⟨node, _⟩ => mark chain node model) model
  marked.expandStar chain table span modifiers
termination_by (sizeOf modifiers, 0)
decreasing_by exact Prod.Lex.left _ _ (size_lt_of_mem_modifierNodes ‹_›)

end

def collect (query : Query) : Model :=
  (bodyColumns [] true true query.body (define query.definitions {})).1

def analyze (query : Query) : List Violation := (collect query).violations

end QueryLint.Usage
