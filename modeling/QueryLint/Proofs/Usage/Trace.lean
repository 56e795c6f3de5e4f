import QueryLint.Proofs.Usage.Names

/-!
The pass over a statement as a series of actions. Which actions a statement takes and in which order
is read off its tree (`statementActions`); what they do depends on the definitions, scopes, saved names
and columns at hand (`Progress`). Carrying the actions out is the pass (`run_statementActions`), so the
states between two actions are the states in which the pass can be found.
-/

namespace QueryLint.Usage

abbrev SavedNames := List (String × Option Nat)

/-- What the pass has at hand while it is under way. -/
structure Progress where
  model : Model := {}
  /-- The scopes around the current place. Behind them, those around each place at which the visit of
  a query has been interrupted for a definition, which sees none of them. -/
  chains : List ScopeChain := [[]]
  /-- What was saved for each query that is being visited, innermost first. -/
  saved : List SavedNames := []
  /-- The columns found so far for each block that is being visited, innermost first. -/
  columns : List (List Column) := []

namespace Progress

def chain (progress : Progress) : ScopeChain := progress.chains.headD []

def scope (progress : Progress) : Scope := progress.chain.headD []

def withScope (progress : Progress) (scope : Scope) : Progress :=
  { progress with chains := (scope :: progress.chain.tail) :: progress.chains.tail }

def addColumns (progress : Progress) (columns : List Column) : Progress :=
  { progress with
    columns := (progress.columns.headD [] ++ columns) :: progress.columns.tail }

end Progress

inductive Action where
  | saveNames (names : List String)
  | restoreNames
  /-- Leaves the scopes around for the query of a definition. -/
  | beginDefinition
  /-- Makes a definition of the columns found last, under its written column list. -/
  | define (name : String) (nameSpan : Span) (names : List String)
  /-- Makes a definition whose query could not be read. -/
  | defineUnread (name : String) (nameSpan : Span)
  | openScope
  | closeScope
  /-- Binds a source whose columns are not known. -/
  | bind (aliasName : String)
  | bindTable (table : TableName)
  | reference (ref : ColumnRef)
  /-- Reads every column of what the innermost scope binds. -/
  | readSources
  | beginColumns
  | column (column : Column)
  | star (table : String) (span : Span) (modifiers : List StarModifier)
  | dropColumns

def Action.apply : Action → Progress → Progress
  | .saveNames names, progress =>
    { progress with saved := progress.model.saveNames names :: progress.saved }
  | .restoreNames, progress =>
    { progress with
      model := progress.model.restoreNames (progress.saved.headD [])
      saved := progress.saved.tail }
  | .beginDefinition, progress => { progress with chains := [] :: progress.chains }
  | .define name nameSpan names, progress =>
    { progress with
      model := progress.model.register
        { name, nameSpan, columns := renameColumns (progress.columns.headD []) names }
      chains := progress.chains.tail
      columns := progress.columns.tail }
  | .defineUnread name nameSpan, progress =>
    { progress with model := progress.model.register { name, nameSpan, columns := [] } }
  | .openScope, progress =>
    { progress with chains := ([] :: progress.chain) :: progress.chains.tail }
  | .closeScope, progress =>
    { progress with chains := progress.chain.tail :: progress.chains.tail }
  | .bind aliasName, progress => progress.withScope (progress.scope.bind aliasName none)
  | .bindTable table, progress =>
    let (model, scope) :=
      bindSource progress.chain.tail progress.scope (.table table) progress.model
    { progress.withScope scope with model }
  | .reference ref, progress =>
    { progress with model := progress.model.markRef progress.chain ref }
  | .readSources, progress => { progress with model := progress.model.markAll progress.scope }
  | .beginColumns, progress => { progress with columns := [] :: progress.columns }
  | .column found, progress => progress.addColumns [found]
  | .star table span modifiers, progress =>
    let (model, columns) := progress.model.expandStar progress.chain table span modifiers
    { progress.addColumns columns with model }
  | .dropColumns, progress => { progress with columns := progress.columns.tail }

def Progress.run (progress : Progress) (actions : List Action) : Progress :=
  actions.foldl (fun progress action => action.apply progress) progress

/-! ### Actions of a statement -/

mutual

def queryActions (final : Bool) (query : Query) : List Action :=
  match query with
  | ⟨_, definitions, body⟩ =>
    [.saveNames (definedNames definitions)] ++ defineActions definitions ++
      bodyActions final true body ++ [.restoreNames]
termination_by (sizeOf query, 0)

def defineActions (definitions : Option WithClause) : List Action :=
  match definitions with
  | none => []
  | some ⟨_, _, ctes⟩ => cteActions ctes
termination_by (sizeOf definitions, 0)

def cteActions (ctes : List Cte) : List Action :=
  match ctes with
  | [] => []
  | ⟨_, name, nameSpan, _, none⟩ :: rest => .defineUnread name nameSpan :: cteActions rest
  | ⟨_, name, nameSpan, names, some query⟩ :: rest =>
    [.beginDefinition] ++ queryActions false query ++ [.define name nameSpan names] ++
      cteActions rest
termination_by (sizeOf ctes, 0)

def bodyActions (final first : Bool) (body : QueryBody) : List Action :=
  match body with
  | .single _ (.block block) => blockActions final block
  | .single _ (.nested query) => queryActions (final && first) query
  | .combined _ (.block block) _ _ right =>
    blockActions final block ++ bodyActions final false right ++ [.dropColumns]
  | .combined _ (.nested query) _ _ right =>
    queryActions false query ++ bodyActions final false right ++ [.dropColumns]
termination_by (sizeOf body, 0)

def blockActions (final : Bool) (block : SelectBlock) : List Action :=
  let sources := match _found : block.source with
    | none => []
    | some source => sourcesActions source
  let clauses := (clauseNodes block (final || block.hasLimit)).attach.flatMap
    fun ⟨node, _⟩ => nodeActions node
  [.openScope] ++ sources ++ clauses ++ [.beginColumns] ++ itemActions block.items 0 ++ [.closeScope]
termination_by (sizeOf block, 0)
decreasing_by
  · exact Prod.Lex.left _ _ (size_lt_of_source_eq_some _found)
  · exact Prod.Lex.left _ _ (size_lt_of_mem_clauseNodes ‹_›)
  · exact Prod.Lex.left _ _ (size_items_lt block)

def sourcesActions (source : FromClause) : List Action :=
  match source with
  | ⟨_, first, joins⟩ => sourceActions first ++ joinActions joins
termination_by (sizeOf source, 0)

def joinActions (joins : List Join) : List Action :=
  match joins with
  | [] => []
  | ⟨_, _, _, right, condition, columns⟩ :: rest =>
    let conditions := (optionNodes condition ++ columnNodes columns).attach.flatMap
      fun ⟨node, _⟩ => nodeActions node
    sourceActions right ++ conditions ++ joinActions rest
termination_by (sizeOf joins, 0)
decreasing_by
  · have := size_lt_of_mem_joinNodes ‹_›
    apply Prod.Lex.left
    simp only [List.cons.sizeOf_spec, Join.mk.sizeOf_spec]
    omega
  · apply Prod.Lex.left
    simp only [List.cons.sizeOf_spec, Join.mk.sizeOf_spec]
    omega
  · apply Prod.Lex.left
    simp only [List.cons.sizeOf_spec, Join.mk.sizeOf_spec]
    omega

def sourceActions (source : TableRef) : List Action :=
  match source with
  | .missing => []
  | .table table => [.bindTable table]
  | .derived _ query aliasName => queryActions false query ++ [.dropColumns, .bind aliasName]
  | .function _ call aliasName _ offsetAlias =>
    nodeActions (.expr call) ++ [.bind aliasName, .bind offsetAlias]
  | .pivot _ inner aggregates forColumn values aliasName =>
    let columns := (pivotNodes aggregates forColumn values).attach.flatMap
      fun ⟨node, _⟩ => nodeActions node
    [.openScope] ++ sourceActions inner ++ columns ++ [.readSources, .closeScope, .bind aliasName]
  | .unpivot _ inner _ _ groups aliasName =>
    let columns := groups.flatMap (·.columns)
    [.openScope] ++ sourceActions inner ++ columns.map .reference ++
      [.readSources, .closeScope, .bind aliasName]
termination_by (sizeOf source, 0)
decreasing_by
  · apply Prod.Lex.left
    simp only [TableRef.derived.sizeOf_spec]
    omega
  · apply Prod.Lex.left
    simp only [Node.size, TableRef.function.sizeOf_spec]
    omega
  · exact Prod.Lex.left _ _ (size_lt_of_mem_pivotNodes ‹_›)
  · apply Prod.Lex.left
    simp only [TableRef.pivot.sizeOf_spec]
    omega
  · apply Prod.Lex.left
    simp only [TableRef.unpivot.sizeOf_spec]
    omega

def nodeActions (node : Node) : List Action :=
  match node with
  | .expr (.column ref) => [.reference ref]
  | .expr (.subquery _ query array) => queryActions array query ++ [.dropColumns]
  | .query query => queryActions false query ++ [.dropColumns]
  | node => node.children.attach.flatMap fun ⟨child, _⟩ => nodeActions child
termination_by (node.size, 1)
decreasing_by
  · apply Prod.Lex.left
    simp only [Node.size, Expr.subquery.sizeOf_spec]
    omega
  · exact Prod.Lex.right _ (by decide)
  · exact Prod.Lex.left _ _ (Node.size_lt_of_mem_children ‹_›)

def itemActions (items : List SelectItem) (anonymous : Nat) : List Action :=
  match items with
  | [] => []
  | .star span modifiers :: rest => starActions "" span modifiers ++ itemActions rest anonymous
  | .tableStar span table modifiers :: rest =>
    starActions table span modifiers ++ itemActions rest anonymous
  | .expr _ expr aliasName _ :: rest =>
    let (column, unnamed) := defineColumn expr aliasName anonymous
    nodeActions (.expr expr) ++ [.column column] ++
      itemActions rest (if unnamed then anonymous + 1 else anonymous)
termination_by (sizeOf items, 0)
decreasing_by
  all_goals
    apply Prod.Lex.left
    simp only [Node.size, List.cons.sizeOf_spec, SelectItem.star.sizeOf_spec,
      SelectItem.tableStar.sizeOf_spec, SelectItem.expr.sizeOf_spec]
    omega

def starActions (table : String) (span : Span) (modifiers : List StarModifier) : List Action :=
  let replacements := (modifiers.flatMap StarModifier.nodes).attach.flatMap
    fun ⟨node, _⟩ => nodeActions node
  replacements ++ [.star table span modifiers]
termination_by (sizeOf modifiers, 0)
decreasing_by exact Prod.Lex.left _ _ (size_lt_of_mem_modifierNodes ‹_›)

end

/-- The actions of a statement, whose own names are not restored. -/
def statementActions (query : Query) : List Action :=
  defineActions query.definitions ++ bodyActions true true query.body

/-! ### The recursion without its bounds -/

theorem flatMap_attach_nodeActions (nodes : List Node) :
    (nodes.attach.flatMap fun ⟨node, _⟩ => nodeActions node) = nodes.flatMap nodeActions := by
  rw [List.flatMap_def, List.flatMap_def, List.attach_map_val]

def fromActions : Option FromClause → List Action
  | none => []
  | some source => sourcesActions source

theorem blockActions_eq (final : Bool) (block : SelectBlock) :
    blockActions final block =
      [.openScope] ++ fromActions block.source ++
        (clauseNodes block (final || block.hasLimit)).flatMap nodeActions ++ [.beginColumns] ++
        itemActions block.items 0 ++ [.closeScope] := by
  obtain ⟨_, _, _, _, source, _, _, _, _, _, _, _, _, _, _⟩ := block
  cases source <;> simp only [blockActions, fromActions, flatMap_attach_nodeActions]

theorem nodeActions_children {node : Node} (column : ∀ ref, node ≠ .expr (.column ref))
    (subquery : ∀ span query array, node ≠ .expr (.subquery span query array))
    (nested : ∀ query, node ≠ .query query) :
    nodeActions node = node.children.flatMap nodeActions := by
  rw [nodeActions.eq_4 _ column subquery nested, flatMap_attach_nodeActions]

/-! ### Carrying out the actions -/

namespace Progress

@[simp] theorem run_nil (progress : Progress) : progress.run [] = progress := rfl

@[simp] theorem run_cons (progress : Progress) (action : Action) (rest : List Action) :
    progress.run (action :: rest) = (action.apply progress).run rest := rfl

@[simp] theorem run_append (progress : Progress) (first second : List Action) :
    progress.run (first ++ second) = (progress.run first).run second := List.foldl_append

end Progress

section Run

variable (chain : ScopeChain) (chains : List ScopeChain) (saved : List SavedNames)
  (columns : List (List Column))

theorem run_nodes (nodes : List Node)
    (visit : ∀ node ∈ nodes, ∀ model,
      (⟨model, chain :: chains, saved, columns⟩ : Progress).run (nodeActions node) =
        ⟨mark chain node model, chain :: chains, saved, columns⟩) (model : Model) :
    (⟨model, chain :: chains, saved, columns⟩ : Progress).run (nodes.flatMap nodeActions) =
      ⟨nodes.foldl (fun model node => mark chain node model) model, chain :: chains, saved,
        columns⟩ := by
  induction nodes generalizing model with
  | nil => rfl
  | cons node rest ih =>
    rw [List.flatMap_cons, Progress.run_append, visit node (List.mem_cons_self ..)]
    exact ih (fun node member => visit node (List.mem_cons_of_mem _ member)) _

theorem run_references (refs : List ColumnRef) (model : Model) :
    (⟨model, chain :: chains, saved, columns⟩ : Progress).run (refs.map .reference) =
      ⟨refs.foldl (·.markRef chain ·) model, chain :: chains, saved, columns⟩ := by
  induction refs generalizing model with
  | nil => rfl
  | cons ref rest ih => exact ih _

end Run

mutual

theorem run_queryActions (chain : ScopeChain) (chains : List ScopeChain) (final : Bool)
    (query : Query) (model : Model) (saved : List SavedNames)
    (columns : List (List Column)) :
    (⟨model, chain :: chains, saved, columns⟩ : Progress).run (queryActions final query) =
      ⟨(statement chain final query model).1, chain :: chains, saved,
        (statement chain final query model).2 :: columns⟩ := by
  match query with
  | ⟨_, definitions, body⟩ =>
    have defined := run_defineActions definitions model (chain :: chains)
      (model.saveNames (definedNames definitions) :: saved) columns
    have visited := run_bodyActions chain chains final true body (define definitions model)
      (model.saveNames (definedNames definitions) :: saved) columns
    simp only [queryActions, statement, Progress.run_append, Progress.run_cons, Progress.run_nil,
      Action.apply, defined, visited, List.headD_cons, List.tail_cons]
termination_by (sizeOf query, 0)
decreasing_by all_goals decreasing_with omega

theorem run_defineActions (definitions : Option WithClause) (model : Model)
    (chains : List ScopeChain) (saved : List SavedNames)
    (columns : List (List Column)) :
    (⟨model, chains, saved, columns⟩ : Progress).run (defineActions definitions) =
      ⟨define definitions model, chains, saved, columns⟩ := by
  match definitions with
  | none => simp only [defineActions, define, Progress.run_nil]
  | some ⟨_, _, ctes⟩ =>
    simpa only [defineActions, define] using run_cteActions ctes model chains saved columns
termination_by (sizeOf definitions, 0)
decreasing_by all_goals decreasing_with omega

theorem run_cteActions (ctes : List Cte) (model : Model) (chains : List ScopeChain)
    (saved : List SavedNames) (columns : List (List Column)) :
    (⟨model, chains, saved, columns⟩ : Progress).run (cteActions ctes) =
      ⟨defineAll ctes model, chains, saved, columns⟩ := by
  match ctes with
  | [] => simp only [cteActions, defineAll, Progress.run_nil]
  | ⟨_, name, nameSpan, _, none⟩ :: rest =>
    have others := run_cteActions rest (model.register { name, nameSpan, columns := [] }) chains
      saved columns
    simpa only [cteActions, defineAll, Progress.run_cons, Action.apply] using others
  | ⟨_, name, nameSpan, names, some query⟩ :: rest =>
    have visited := run_queryActions [] chains false query model saved columns
    have others := run_cteActions rest
      ((statement [] false query model).1.register
        { name, nameSpan, columns := renameColumns (statement [] false query model).2 names })
      chains saved columns
    simpa only [cteActions, defineAll, Progress.run_append, Progress.run_cons, Progress.run_nil,
      Action.apply, visited, List.headD_cons, List.tail_cons] using others
termination_by (sizeOf ctes, 0)
decreasing_by all_goals decreasing_with omega

theorem run_bodyActions (chain : ScopeChain) (chains : List ScopeChain) (final first : Bool)
    (body : QueryBody) (model : Model) (saved : List SavedNames)
    (columns : List (List Column)) :
    (⟨model, chain :: chains, saved, columns⟩ : Progress).run (bodyActions final first body) =
      ⟨(bodyColumns chain final first body model).1, chain :: chains, saved,
        (bodyColumns chain final first body model).2 :: columns⟩ := by
  match body with
  | .single _ (.block block) =>
    simpa only [bodyActions, bodyColumns] using
      run_blockActions chain chains final block model saved columns
  | .single _ (.nested query) =>
    simpa only [bodyActions, bodyColumns] using
      run_queryActions chain chains (final && first) query model saved columns
  | .combined _ (.block block) _ _ right =>
    have left := run_blockActions chain chains final block model saved columns
    have others := run_bodyActions chain chains final false right
      (blockColumns chain final block model).1 saved
      ((blockColumns chain final block model).2 :: columns)
    simp only [bodyActions, bodyColumns, Progress.run_append, Progress.run_cons, Progress.run_nil,
      Action.apply, left, others, List.tail_cons]
  | .combined _ (.nested query) _ _ right =>
    have left := run_queryActions chain chains false query model saved columns
    have others := run_bodyActions chain chains final false right
      (statement chain false query model).1 saved ((statement chain false query model).2 :: columns)
    simp only [bodyActions, bodyColumns, Progress.run_append, Progress.run_cons, Progress.run_nil,
      Action.apply, left, others, List.tail_cons]
termination_by (sizeOf body, 0)
decreasing_by all_goals decreasing_with omega

theorem run_blockActions (chain : ScopeChain) (chains : List ScopeChain) (final : Bool)
    (block : SelectBlock) (model : Model) (saved : List SavedNames)
    (columns : List (List Column)) :
    (⟨model, chain :: chains, saved, columns⟩ : Progress).run (blockActions final block) =
      ⟨(blockColumns chain final block model).1, chain :: chains, saved,
        (blockColumns chain final block model).2 :: columns⟩ := by
  have clauses (scope : Scope) := run_nodes (scope :: chain) chains saved columns
    (clauseNodes block (final || block.hasLimit))
    fun node _ model => run_nodeActions (scope :: chain) chains node model saved columns
  have items (scope : Scope) (model : Model) :=
    run_itemActions (scope :: chain) chains block.items 0 model saved [] columns
  rw [blockColumns_eq, blockActions_eq]
  cases found : block.source with
  | none =>
    simp only [fromActions, Progress.run_append, Progress.run_cons, Progress.run_nil, Action.apply,
      Progress.chain, List.headD_cons, List.tail_cons, clauses, items, List.nil_append]
  | some source =>
    have bound := run_sourcesActions chain chains source model saved columns
    simp only [fromActions, Progress.run_append, Progress.run_cons, Progress.run_nil, Action.apply,
      Progress.chain, List.headD_cons, List.tail_cons, bound, clauses, items, List.nil_append]
termination_by (sizeOf block, 0)
decreasing_by
  · exact Prod.Lex.left _ _ (size_lt_of_mem_clauseNodes ‹_›)
  · exact Prod.Lex.left _ _ (size_items_lt block)
  · exact Prod.Lex.left _ _ (size_lt_of_source_eq_some found)

theorem run_sourcesActions (chain : ScopeChain) (chains : List ScopeChain) (source : FromClause)
    (model : Model) (saved : List SavedNames) (columns : List (List Column)) :
    (⟨model, ([] :: chain) :: chains, saved, columns⟩ : Progress).run (sourcesActions source) =
      ⟨(sources chain source model).1, ((sources chain source model).2 :: chain) :: chains, saved,
        columns⟩ := by
  match source with
  | ⟨_, first, joins⟩ =>
    have head := run_sourceActions chain chains [] first model saved columns
    have others := run_joinActions chain chains (bindSource chain [] first model).2 joins
      (bindSource chain [] first model).1 saved columns
    simp only [sourcesActions, sources, Progress.run_append, head, others]
termination_by (sizeOf source, 0)
decreasing_by all_goals decreasing_with omega

theorem run_joinActions (chain : ScopeChain) (chains : List ScopeChain) (scope : Scope)
    (joins : List Join) (model : Model) (saved : List SavedNames)
    (columns : List (List Column)) :
    (⟨model, (scope :: chain) :: chains, saved, columns⟩ : Progress).run (joinActions joins) =
      ⟨(joinSources chain scope joins model).1,
        ((joinSources chain scope joins model).2 :: chain) :: chains, saved, columns⟩ := by
  match joins with
  | [] => simp only [joinActions, joinSources, Progress.run_nil]
  | ⟨span, kind, natural, right, condition, names⟩ :: rest =>
    have head := run_sourceActions chain chains scope right model saved columns
    have conditions (scope : Scope) := run_nodes (scope :: chain) chains saved columns
      (optionNodes condition ++ columnNodes names)
      fun node _ model => run_nodeActions (scope :: chain) chains node model saved columns
    have others (scope : Scope) (model : Model) :=
      run_joinActions chain chains scope rest model saved columns
    rw [joinSources_cons, joinActions, flatMap_attach_nodeActions]
    simp only [Progress.run_append, head, conditions, others]
termination_by (sizeOf joins, 0)
decreasing_by
  · apply Prod.Lex.left
    simp only [List.cons.sizeOf_spec, Join.mk.sizeOf_spec]
    omega
  · have := size_lt_of_mem_joinNodes ‹_›
    apply Prod.Lex.left
    simp only [List.cons.sizeOf_spec, Join.mk.sizeOf_spec]
    omega
  · apply Prod.Lex.left
    simp only [List.cons.sizeOf_spec, Join.mk.sizeOf_spec]
    omega

theorem run_sourceActions (chain : ScopeChain) (chains : List ScopeChain) (scope : Scope)
    (source : TableRef) (model : Model) (saved : List SavedNames)
    (columns : List (List Column)) :
    (⟨model, (scope :: chain) :: chains, saved, columns⟩ : Progress).run (sourceActions source) =
      ⟨(bindSource chain scope source model).1,
        ((bindSource chain scope source model).2 :: chain) :: chains, saved, columns⟩ := by
  match source with
  | .missing => simp only [sourceActions, bindSource, Progress.run_nil]
  | .table table =>
    simp only [sourceActions, Progress.run_cons, Progress.run_nil, Action.apply, Progress.withScope,
      Progress.scope, Progress.chain, List.headD_cons, List.tail_cons]
  | .derived _ query aliasName =>
    have visited := run_queryActions (scope :: chain) chains false query model saved columns
    simp only [sourceActions, bindSource, Progress.run_append, Progress.run_cons, Progress.run_nil,
      Action.apply, Progress.withScope, Progress.scope, Progress.chain, visited, List.headD_cons,
      List.tail_cons]
  | .function _ call aliasName _ offsetAlias =>
    have visited := run_nodeActions (scope :: chain) chains (.expr call) model saved columns
    simp only [sourceActions, bindSource, Progress.run_append, Progress.run_cons, Progress.run_nil,
      Action.apply, Progress.withScope, Progress.scope, Progress.chain, visited, List.headD_cons,
      List.tail_cons]
  | .pivot _ inner aggregates forColumn values aliasName =>
    have head := run_sourceActions (scope :: chain) chains [] inner model saved columns
    have pivoted (own : Scope) := run_nodes (own :: scope :: chain) chains saved columns
      (pivotNodes aggregates forColumn values)
      fun node _ model => run_nodeActions (own :: scope :: chain) chains node model saved columns
    simp only [sourceActions, bindSource, flatMap_attach_nodeActions, foldl_attach_mark,
      Progress.run_append, Progress.run_cons, Progress.run_nil, Action.apply, Progress.withScope,
      Progress.scope, Progress.chain, head, pivoted, List.headD_cons, List.tail_cons]
  | .unpivot _ inner _ _ groups aliasName =>
    have head := run_sourceActions (scope :: chain) chains [] inner model saved columns
    have grouped (own : Scope) := run_references (own :: scope :: chain) chains saved columns
      (groups.flatMap (·.columns))
    simp only [sourceActions, bindSource, Progress.run_append, Progress.run_cons, Progress.run_nil,
      Action.apply, Progress.withScope, Progress.scope, Progress.chain, head, grouped,
      List.headD_cons, List.tail_cons]
termination_by (sizeOf source, 0)
decreasing_by
  · apply Prod.Lex.left
    simp only [TableRef.derived.sizeOf_spec]
    omega
  · apply Prod.Lex.left
    simp only [Node.size, TableRef.function.sizeOf_spec]
    omega
  · apply Prod.Lex.left
    simp only [TableRef.pivot.sizeOf_spec]
    omega
  · exact Prod.Lex.left _ _ (size_lt_of_mem_pivotNodes ‹_›)
  · apply Prod.Lex.left
    simp only [TableRef.unpivot.sizeOf_spec]
    omega

theorem run_nodeActions (chain : ScopeChain) (chains : List ScopeChain) (node : Node)
    (model : Model) (saved : List SavedNames) (columns : List (List Column)) :
    (⟨model, chain :: chains, saved, columns⟩ : Progress).run (nodeActions node) =
      ⟨mark chain node model, chain :: chains, saved, columns⟩ := by
  by_cases column : ∃ ref, node = .expr (.column ref)
  · obtain ⟨ref, rfl⟩ := column
    simp only [nodeActions, mark, Progress.run_cons, Progress.run_nil, Action.apply, Progress.chain,
      List.headD_cons]
  by_cases subquery : ∃ span query array, node = .expr (.subquery span query array)
  · obtain ⟨span, query, array, shape⟩ := subquery
    have visited := run_queryActions chain chains array query model saved columns
    simp only [shape, nodeActions, mark, Progress.run_append, Progress.run_cons, Progress.run_nil,
      Action.apply, visited, List.tail_cons]
  by_cases nested : ∃ query, node = .query query
  · obtain ⟨query, shape⟩ := nested
    have visited := run_queryActions chain chains false query model saved columns
    simp only [shape, nodeActions, mark, Progress.run_append, Progress.run_cons, Progress.run_nil,
      Action.apply, visited, List.tail_cons]
  simp only [not_exists] at column subquery nested
  rw [mark_children column subquery nested, nodeActions_children column subquery nested]
  exact run_nodes chain chains saved columns node.children
    (fun child _ model => run_nodeActions chain chains child model saved columns) model
termination_by (node.size, 1)
decreasing_by
  · apply Prod.Lex.left
    simp only [shape, Node.size, Expr.subquery.sizeOf_spec]
    omega
  · rw [shape]
    exact Prod.Lex.right _ (by decide)
  · exact Prod.Lex.left _ _ (Node.size_lt_of_mem_children ‹_›)

theorem run_itemActions (chain : ScopeChain) (chains : List ScopeChain) (items : List SelectItem)
    (anonymous : Nat) (model : Model) (saved : List SavedNames)
    (found : List Column) (columns : List (List Column)) :
    (⟨model, chain :: chains, saved, found :: columns⟩ : Progress).run
        (itemActions items anonymous) =
      ⟨(itemColumns chain items anonymous model).1, chain :: chains, saved,
        (found ++ (itemColumns chain items anonymous model).2) :: columns⟩ := by
  match items with
  | [] => simp only [itemActions, itemColumns, Progress.run_nil, List.append_nil]
  | .star span modifiers :: rest =>
    have first := run_starActions chain chains "" span modifiers model saved found columns
    have others (model : Model) (found : List Column) :=
      run_itemActions chain chains rest anonymous model saved found columns
    simp only [itemActions, itemColumns, Progress.run_append, first, others, List.append_assoc]
  | .tableStar span table modifiers :: rest =>
    have first := run_starActions chain chains table span modifiers model saved found columns
    have others (model : Model) (found : List Column) :=
      run_itemActions chain chains rest anonymous model saved found columns
    simp only [itemActions, itemColumns, Progress.run_append, first, others, List.append_assoc]
  | .expr _ expr aliasName _ :: rest =>
    have first :=
      run_nodeActions chain chains (.expr expr) model saved (found :: columns)
    have others (model : Model) (found : List Column) := run_itemActions chain chains rest
      (if (defineColumn expr aliasName anonymous).2 then anonymous + 1 else anonymous) model saved
      found columns
    simp only [itemActions, itemColumns, Progress.run_append, Progress.run_cons, Action.apply,
      Progress.addColumns, first, others, List.headD_cons, List.tail_cons, List.append_assoc,
      List.singleton_append]
termination_by (sizeOf items, 0)
decreasing_by
  all_goals
    apply Prod.Lex.left
    simp only [Node.size, List.cons.sizeOf_spec, SelectItem.star.sizeOf_spec,
      SelectItem.tableStar.sizeOf_spec, SelectItem.expr.sizeOf_spec]
    omega

theorem run_starActions (chain : ScopeChain) (chains : List ScopeChain) (table : String)
    (span : Span) (modifiers : List StarModifier) (model : Model)
    (saved : List SavedNames) (found : List Column)
    (columns : List (List Column)) :
    (⟨model, chain :: chains, saved, found :: columns⟩ : Progress).run
        (starActions table span modifiers) =
      ⟨(starColumns chain table span modifiers model).1, chain :: chains, saved,
        (found ++ (starColumns chain table span modifiers model).2) :: columns⟩ := by
  have replaced := run_nodes chain chains saved (found :: columns)
    (modifiers.flatMap StarModifier.nodes)
    (fun node _ model => run_nodeActions chain chains node model saved (found :: columns)) model
  simp only [starActions, starColumns, flatMap_attach_nodeActions, foldl_attach_mark,
    Progress.run_append, Progress.run_cons, Progress.run_nil, Action.apply, Progress.chain,
    Progress.addColumns, replaced, List.headD_cons, List.tail_cons]
termination_by (sizeOf modifiers, 0)
decreasing_by exact Prod.Lex.left _ _ (size_lt_of_mem_modifierNodes ‹_›)

end

/-- Carrying out the actions of a statement is the pass over it. -/
theorem run_statementActions (query : Query) :
    (({} : Progress).run (statementActions query)).model = collect query := by
  have defined := run_defineActions query.definitions {} [[]] [] []
  have visited := run_bodyActions [] [] true true query.body (define query.definitions {}) [] []
  rw [statementActions, Progress.run_append, defined, visited]
  rfl

end QueryLint.Usage
