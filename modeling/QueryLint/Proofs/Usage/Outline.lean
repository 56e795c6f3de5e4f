import QueryLint.Usage.Collect

/-!
A statement told in two phases. The outline of a statement lists the definitions that it makes, in
the order in which they are made, and the places that read columns, each with the scopes around it;
nothing is marked. Which columns such a place reaches is decided afterwards, against all
definitions of the statement (`Site.Reaches`).

A name stands for its latest earlier definition. The names of a nested query are handed down into
that query and never handed back, so they end with it.
-/

namespace QueryLint.Usage

/-! ### Places that read columns -/

inductive Site where
  /-- A column reference. -/
  | reference (chain : ScopeChain) (ref : ColumnRef)
  /-- A star, with the alias before it or the empty name, and the folded names that it leaves out
  or gives other values. -/
  | star (chain : ScopeChain) (table : String) (excepted replaced : List String)
  /-- A pivoted source, which reads every column of what it is made from. -/
  | whole (scope : Scope)

def HasColumn (definitions : List Definition) (id : Nat) (key : String) : Prop :=
  ∃ definition, definitions[id]? = some definition ∧ ∃ column ∈ definition.columns, column.key = key

/-- What a folded name without a qualifier stands for, as a definition and the folded name of one
of its columns. Scopes further out count only if nothing matches further in. -/
inductive Bare (definitions : List Definition) (key : String) : ScopeChain → Nat → String → Prop
  /-- A column of that name, in each definition of the scope that has one. -/
  | column {scope : Scope} {outer : ScopeChain} {id : Nat} (bound : id ∈ scope.targets)
      (present : HasColumn definitions id key) : Bare definitions key (scope :: outer) id key
  /-- The whole row of the definition that the name is an alias for. -/
  | row {scope : Scope} {outer : ScopeChain} {id : Nat} {other : String}
      (absent : ∀ id ∈ scope.targets, ¬HasColumn definitions id key)
      (bound : scope.find? key = some (some id)) : Bare definitions key (scope :: outer) id other
  | outer {scope : Scope} {outer : ScopeChain} {id : Nat} {other : String}
      (absent : ∀ id ∈ scope.targets, ¬HasColumn definitions id key)
      (unbound : ∀ id, scope.find? key ≠ some (some id)) (further : Bare definitions key outer id other) :
      Bare definitions key (scope :: outer) id other

namespace Site

/-- The columns that a place reaches, each as a definition and a folded name. -/
def Reaches (definitions : List Definition) : Site → Nat → String → Prop
  | .reference chain ref, id, key =>
    if ref.table.isEmpty then Bare definitions (Text.fold ref.column) chain id key
    else match chain.resolve ref.table with
      | some (some target) => id = target ∧ key = Text.fold ref.column
      | some none => False
      | none => Bare definitions (Text.fold ref.table) chain id key
  | .star chain table excepted replaced, id, key =>
    id ∈ Model.starSources chain table ∧ key ∉ excepted ∧ key ∉ replaced
  | .whole scope, id, _ => id ∈ scope.targets

end Site

/-! ### Outlines -/

/-- A definition, the named query that makes it and what was known before that query. -/
structure Made where
  definition : Definition
  cte : Cte
  known : Model

/-- What a part of a statement makes and reads, in the order in which it is visited. -/
structure Outline where
  made : List Made := []
  sites : List Site := []

namespace Outline

def definitions (outline : Outline) : List Definition := outline.made.map (·.definition)

instance : Append Outline := ⟨fun a b => ⟨a.made ++ b.made, a.sites ++ b.sites⟩⟩

@[simp] theorem made_append (a b : Outline) : (a ++ b).made = a.made ++ b.made := rfl

@[simp] theorem sites_append (a b : Outline) : (a ++ b).sites = a.sites ++ b.sites := rfl

@[simp] theorem definitions_append (a b : Outline) :
    (a ++ b).definitions = a.definitions ++ b.definitions := List.map_append

def readAll (sites : List Site) : Outline := { sites }

@[simp] theorem sites_readAll (sites : List Site) : (readAll sites).sites = sites := rfl

@[simp] theorem made_readAll (sites : List Site) : (readAll sites).made = [] := rfl

@[simp] theorem definitions_readAll (sites : List Site) : (readAll sites).definitions = [] := rfl

@[simp] theorem definitions_empty : ({} : Outline).definitions = [] := rfl

end Outline

/-- What is known after a part of a statement: its definitions, but no further names. -/
def Model.after (known : Model) (outline : Outline) : Model :=
  { known with definitions := known.definitions ++ outline.definitions }

namespace Model

@[simp] theorem latest_after (known : Model) (outline : Outline) :
    (known.after outline).latest = known.latest := rfl

@[simp] theorem definitions_after (known : Model) (outline : Outline) :
    (known.after outline).definitions = known.definitions ++ outline.definitions := rfl

@[simp] theorem after_empty (known : Model) : known.after {} = known := by
  simp [Model.after]

@[simp] theorem after_readAll (known : Model) (sites : List Site) :
    known.after (.readAll sites) = known := by
  simp [Model.after]

@[simp] theorem after_append (known : Model) (a b : Outline) :
    known.after (a ++ b) = (known.after a).after b := by
  simp [Model.after, List.append_assoc]

/-- The columns that a star passes on. -/
def passedOn (known : Model) (chain : ScopeChain) (table : String) (span : Span)
    (modifiers : List StarModifier) : List Column :=
  (starSources chain table).flatMap fun id =>
    ((known.columns id).filter fun column => column.key ∉ excepted modifiers).map fun column =>
      { name := column.name, span, mirrored := true }

end Model

/-- The outline of parts that are visited one after the other, where each part knows the
definitions of those before it. -/
def Outline.sequence {α : Type} (part : α → Model → Outline) : List α → Model → Outline
  | [], _ => {}
  | first :: rest, known =>
    part first known ++ Outline.sequence part rest (known.after (part first known))

@[simp] theorem Outline.sequence_attach {α : Type} (part : α → Model → Outline) (parts : List α)
    (known : Model) :
    Outline.sequence (fun (entry : { part // part ∈ parts }) known => part entry.val known)
      parts.attach known = Outline.sequence part parts known := by
  suffices general : ∀ entries : List { part // part ∈ parts }, ∀ known,
      Outline.sequence (fun entry known => part entry.val known) entries known =
        Outline.sequence part (entries.map Subtype.val) known by
    rw [general, List.attach_map_subtype_val]
  intro entries
  induction entries with
  | nil => intro known; rfl
  | cons entry entries ih => intro known; simp only [Outline.sequence, List.map_cons, ih]

/-- The clauses of a block that are read between its sources and its select items. The order of the rows
counts where the block passes it on as it is, and where a limit or an offset cuts rows off. -/
def clausesRead (block : SelectBlock) (final : Bool) : List Node :=
  optionNodes block.filter ++ exprNodes block.groupBy ++ optionNodes block.having ++
    block.windows.map (fun window => .window window.spec) ++ optionNodes block.qualify ++
    if final || block.limit.isSome || block.offset.isSome then orderNodes block.orderBy else []

theorem clausesRead_eq (block : SelectBlock) (final : Bool) :
    clausesRead block final = clauseNodes block (final || block.hasLimit) := by
  rw [clausesRead, clauseNodes, SelectBlock.hasLimit, Bool.or_assoc]

theorem size_lt_of_mem_clausesRead {block : SelectBlock} {final : Bool} {node : Node}
    (member : node ∈ clausesRead block final) : node.size < sizeOf block :=
  size_lt_of_mem_clauseNodes (clausesRead_eq block final ▸ member)

mutual

/-- The outline of a query and the columns of its first operand. -/
def outlineQuery (chain : ScopeChain) (final : Bool) (query : Query) (known : Model) :
    Outline × List Column :=
  match query with
  | ⟨_, definitions, body⟩ =>
    let (own, inside) := outlineWith definitions known
    let (rest, columns) := outlineBody chain final true body inside
    (own ++ rest, columns)
termination_by (sizeOf query, 0)

def outlineWith (definitions : Option WithClause) (known : Model) : Outline × Model :=
  match definitions with
  | none => ({}, known)
  | some ⟨_, _, ctes⟩ => outlineCtes ctes known
termination_by (sizeOf definitions, 0)

/-- Each named query comes after the definitions inside it and is known to those after it. -/
def outlineCtes (ctes : List Cte) (known : Model) : Outline × Model :=
  match ctes with
  | [] => ({}, known)
  | ⟨span, name, nameSpan, names, none⟩ :: rest =>
    let definition : Definition := { name, nameSpan, columns := [] }
    let (others, inside) := outlineCtes rest (known.register definition)
    ({ made := [⟨definition, ⟨span, name, nameSpan, names, none⟩, known⟩] } ++ others, inside)
  | ⟨span, name, nameSpan, names, some query⟩ :: rest =>
    let (inner, columns) := outlineQuery [] false query known
    let definition : Definition := { name, nameSpan, columns := renameColumns columns names }
    let (others, inside) := outlineCtes rest ((known.after inner).register definition)
    (inner ++ { made := [⟨definition, ⟨span, name, nameSpan, names, some query⟩, known⟩] } ++ others,
      inside)
termination_by (sizeOf ctes, 0)

def outlineBody (chain : ScopeChain) (final first : Bool) (body : QueryBody) (known : Model) :
    Outline × List Column :=
  match body with
  | .single _ (.block block) => outlineBlock chain final block known
  | .single _ (.nested query) => outlineQuery chain (final && first) query known
  | .combined _ (.block block) _ _ right =>
    let (left, columns) := outlineBlock chain final block known
    (left ++ (outlineBody chain final false right (known.after left)).1, columns)
  | .combined _ (.nested query) _ _ right =>
    let (left, columns) := outlineQuery chain false query known
    (left ++ (outlineBody chain final false right (known.after left)).1, columns)
termination_by (sizeOf body, 0)

/-- The sources of a block make the scope in which its clauses and its items are read. -/
def outlineBlock (chain : ScopeChain) (final : Bool) (block : SelectBlock) (known : Model) :
    Outline × List Column :=
  let (sources, scope) : Outline × Scope := match _found : block.source with
    | none => ({}, [])
    | some source => outlineSources chain source known
  let clauses := Outline.sequence (fun (entry : { node // node ∈ clausesRead block final }) known =>
    outlineNode (scope :: chain) entry.val known) (List.attach _) (known.after sources)
  let (items, columns) :=
    outlineItems (scope :: chain) block.items 0 ((known.after sources).after clauses)
  (sources ++ clauses ++ items, columns)
termination_by (sizeOf block, 0)
decreasing_by
  · exact Prod.Lex.left _ _ (size_lt_of_source_eq_some _found)
  · exact Prod.Lex.left _ _ (size_lt_of_mem_clausesRead entry.property)
  · exact Prod.Lex.left _ _ (size_items_lt block)

def outlineSources (chain : ScopeChain) (source : FromClause) (known : Model) : Outline × Scope :=
  match source with
  | ⟨_, first, joins⟩ =>
    let (outline, scope) := outlineSource chain [] first known
    let (others, scope) := outlineJoins chain scope joins (known.after outline)
    (outline ++ others, scope)
termination_by (sizeOf source, 0)

def outlineJoins (chain : ScopeChain) (scope : Scope) (joins : List Join) (known : Model) :
    Outline × Scope :=
  match joins with
  | [] => ({}, scope)
  | ⟨_, _, _, right, condition, columns⟩ :: rest =>
    let (source, scope) := outlineSource chain scope right known
    let conditions := Outline.sequence (fun (entry : { node //
        node ∈ optionNodes condition ++ columnNodes columns }) known =>
      outlineNode (scope :: chain) entry.val known) (List.attach _) (known.after source)
    let (others, scope) := outlineJoins chain scope rest ((known.after source).after conditions)
    (source ++ conditions ++ others, scope)
termination_by (sizeOf joins, 0)
decreasing_by
  · apply Prod.Lex.left
    simp only [List.cons.sizeOf_spec, Join.mk.sizeOf_spec]
    omega
  · have smaller := size_lt_of_mem_joinNodes entry.property
    apply Prod.Lex.left
    simp only [List.cons.sizeOf_spec, Join.mk.sizeOf_spec]
    omega
  · apply Prod.Lex.left
    simp only [List.cons.sizeOf_spec, Join.mk.sizeOf_spec]
    omega

/-- The outline of one source and the scope with its name. A single name stands for the definition
that is visible under it; a path into a column of an earlier source reads that column. -/
def outlineSource (chain : ScopeChain) (scope : Scope) (source : TableRef) (known : Model) :
    Outline × Scope :=
  match source with
  | .missing => ({}, scope)
  | .table table =>
    if table.project.isEmpty && table.dataset.isEmpty then
      ({}, scope.bind table.exposedName (known.lookup table.name))
    else if table.project.isEmpty && (ScopeChain.resolve (scope :: chain) table.dataset).isSome then
      (.readAll [.reference (scope :: chain) { table := table.dataset, column := table.name }],
        scope.bind table.exposedName none)
    else ({}, scope.bind table.exposedName none)
  | .derived _ query aliasName =>
    ((outlineQuery (scope :: chain) false query known).1, scope.bind aliasName none)
  | .function _ call aliasName _ offsetAlias =>
    (outlineNode (scope :: chain) (.expr call) known,
      (scope.bind aliasName none).bind offsetAlias none)
  | .pivot _ inner aggregates forColumn values aliasName =>
    let (source, own) := outlineSource (scope :: chain) [] inner known
    let columns := Outline.sequence (fun (entry : { node //
        node ∈ namedNodes aggregates ++ columnNodes [forColumn] ++ namedNodes values }) known =>
      outlineNode (own :: scope :: chain) entry.val known) (List.attach _) (known.after source)
    (source ++ columns ++ .readAll [.whole own], scope.bind aliasName none)
  | .unpivot _ inner _ _ groups aliasName =>
    let (source, own) := outlineSource (scope :: chain) [] inner known
    let columns := groups.flatMap (·.columns)
    (source ++ .readAll (columns.map (.reference (own :: scope :: chain))) ++ .readAll [.whole own],
      scope.bind aliasName none)
termination_by (sizeOf source, 0)
decreasing_by
  · apply Prod.Lex.left
    simp only [TableRef.derived.sizeOf_spec]
    omega
  · apply Prod.Lex.left
    simp only [Node.size, TableRef.function.sizeOf_spec]
    omega
  · apply Prod.Lex.left
    simp only [TableRef.pivot.sizeOf_spec]
    omega
  · exact Prod.Lex.left _ _ (size_lt_of_mem_pivotNodes entry.property)
  · apply Prod.Lex.left
    simp only [TableRef.unpivot.sizeOf_spec]
    omega

def outlineNode (chain : ScopeChain) (node : Node) (known : Model) : Outline :=
  match node with
  | .expr (.column ref) => .readAll [.reference chain ref]
  | .expr (.subquery _ query array) => (outlineQuery chain array query known).1
  | .query query => (outlineQuery chain false query known).1
  | node => Outline.sequence (fun (entry : { child // child ∈ node.children }) known =>
      outlineNode chain entry.val known) (List.attach _) known
termination_by (node.size, 1)
decreasing_by
  · apply Prod.Lex.left
    simp only [Node.size, Expr.subquery.sizeOf_spec]
    omega
  · exact Prod.Lex.right _ (by decide)
  · exact Prod.Lex.left _ _ (Node.size_lt_of_mem_children entry.property)

def outlineItems (chain : ScopeChain) (items : List SelectItem) (anonymous : Nat) (known : Model) :
    Outline × List Column :=
  match items with
  | [] => ({}, [])
  | .star span modifiers :: rest =>
    let (first, columns) := outlineStar chain "" span modifiers known
    let (others, further) := outlineItems chain rest anonymous (known.after first)
    (first ++ others, columns ++ further)
  | .tableStar span table modifiers :: rest =>
    let (first, columns) := outlineStar chain table span modifiers known
    let (others, further) := outlineItems chain rest anonymous (known.after first)
    (first ++ others, columns ++ further)
  | .expr _ expr aliasName _ :: rest =>
    let first := outlineNode chain (.expr expr) known
    let (column, unnamed) := defineColumn expr aliasName anonymous
    let (others, further) := outlineItems chain rest
      (if unnamed then anonymous + 1 else anonymous) (known.after first)
    (first ++ others, column :: further)
termination_by (sizeOf items, 0)
decreasing_by
  all_goals
    apply Prod.Lex.left
    simp only [Node.size, List.cons.sizeOf_spec, SelectItem.star.sizeOf_spec,
      SelectItem.tableStar.sizeOf_spec, SelectItem.expr.sizeOf_spec]
    omega

def outlineStar (chain : ScopeChain) (table : String) (span : Span)
    (modifiers : List StarModifier) (known : Model) : Outline × List Column :=
  let replacements := Outline.sequence (fun (entry : { node //
      node ∈ modifiers.flatMap StarModifier.nodes }) known =>
    outlineNode chain entry.val known) (List.attach _) known
  (replacements ++
      .readAll [.star chain table (Model.excepted modifiers) (Model.replaced modifiers)],
    (known.after replacements).passedOn chain table span modifiers)
termination_by (sizeOf modifiers, 0)
decreasing_by exact Prod.Lex.left _ _ (size_lt_of_mem_modifierNodes entry.property)

end

/-! ### The recursion without its bounds -/

def outlineFrom (chain : ScopeChain) (source : Option FromClause) (known : Model) :
    Outline × Scope :=
  match source with
  | none => ({}, [])
  | some source => outlineSources chain source known

theorem outlineBlock_eq (chain : ScopeChain) (final : Bool) (block : SelectBlock) (known : Model) :
    outlineBlock chain final block known =
      let (sources, scope) := outlineFrom chain block.source known
      let clauses := Outline.sequence (outlineNode (scope :: chain))
        (clauseNodes block (final || block.hasLimit)) (known.after sources)
      let (items, columns) :=
        outlineItems (scope :: chain) block.items 0 ((known.after sources).after clauses)
      (sources ++ clauses ++ items, columns) := by
  obtain ⟨_, _, _, _, source, _, _, _, _, _, _, _, _, _, _⟩ := block
  cases source <;> simp only [outlineBlock, outlineFrom, Outline.sequence_attach, clausesRead_eq]

theorem outlineJoins_cons (chain : ScopeChain) (scope : Scope) (join : Join) (rest : List Join)
    (known : Model) : outlineJoins chain scope (join :: rest) known =
      let (source, scope) := outlineSource chain scope join.right known
      let conditions := Outline.sequence (outlineNode (scope :: chain))
        (optionNodes join.condition ++ columnNodes join.columns) (known.after source)
      let (others, scope) := outlineJoins chain scope rest ((known.after source).after conditions)
      (source ++ conditions ++ others, scope) := by
  obtain ⟨_, _, _, right, condition, columns⟩ := join
  simp only [outlineJoins, Outline.sequence_attach]

theorem outlineSource_pivot (chain : ScopeChain) (scope : Scope) (span : Span) (inner : TableRef)
    (aggregates : List NamedExpr) (forColumn : ColumnRef) (values : List NamedExpr)
    (aliasName : String) (known : Model) :
    outlineSource chain scope (.pivot span inner aggregates forColumn values aliasName) known =
      let (source, own) := outlineSource (scope :: chain) [] inner known
      let columns := Outline.sequence (outlineNode (own :: scope :: chain))
        (pivotNodes aggregates forColumn values) (known.after source)
      (source ++ columns ++ .readAll [.whole own], scope.bind aliasName none) := by
  simp only [outlineSource, Outline.sequence_attach, pivotNodes]

theorem outlineNode_children {chain : ScopeChain} {node : Node} {known : Model}
    (column : ∀ ref, node ≠ .expr (.column ref))
    (subquery : ∀ span query array, node ≠ .expr (.subquery span query array))
    (nested : ∀ query, node ≠ .query query) :
    outlineNode chain node known = Outline.sequence (outlineNode chain) node.children known := by
  rw [outlineNode.eq_4 _ _ _ column subquery nested, Outline.sequence_attach]

theorem outlineStar_eq (chain : ScopeChain) (table : String) (span : Span)
    (modifiers : List StarModifier) (known : Model) :
    outlineStar chain table span modifiers known =
      let replacements :=
        Outline.sequence (outlineNode chain) (modifiers.flatMap StarModifier.nodes) known
      (replacements ++
          .readAll [.star chain table (Model.excepted modifiers) (Model.replaced modifiers)],
        (known.after replacements).passedOn chain table span modifiers) := by
  simp only [outlineStar, Outline.sequence_attach]

/-- The outline of a statement. -/
def Outline.ofQuery (query : Query) : Outline :=
  let (own, inside) := outlineWith query.definitions {}
  own ++ (outlineBody [] true true query.body inside).1

theorem ofQuery_eq (query : Query) : Outline.ofQuery query = (outlineQuery [] true query {}).1 := by
  cases query
  simp only [Outline.ofQuery, outlineQuery]

end QueryLint.Usage
