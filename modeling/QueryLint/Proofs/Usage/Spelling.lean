import QueryLint.Proofs.Usage.Trace
import QueryLint.Proofs.Usage.UnusedColumn
import QueryLint.Proofs.Syntax.Respelled

/-!
The pass sees identifiers through their folding alone. Two statements of one shape whose identifiers fold
alike take the same actions, spelling apart; carried out side by side, these keep two models that differ in
spelling alone (`Progress.Respelled.run`). So the same columns of the same definitions are reported, each
as its own statement spells it (`collect_respelled`).
-/

namespace QueryLint.Usage

variable {spelt : String → String → Prop}

/-- Two names that no comparison tells apart. -/
structure SameFold (name other : String) : Prop where
  fold : Text.fold name = Text.fold other
  isEmpty : name.isEmpty = other.isEmpty

theorem SameFold.refl (name : String) : SameFold name name := ⟨rfl, rfl⟩

theorem eq_of_forall₂ {α : Type} {as bs : List α} (same : List.Forall₂ (· = ·) as bs) : as = bs := by
  rwa [List.forall₂_eq_eq_eq] at same

theorem forall₂_of_eq {α : Type} {as bs : List α} (same : as = bs) : List.Forall₂ (· = ·) as bs := by
  rwa [List.forall₂_eq_eq_eq]

theorem map_fold_eq (folds : ∀ name other, spelt name other → SameFold name other)
    {names others : List String} (same : List.Forall₂ spelt names others) :
    names.map Text.fold = others.map Text.fold := by
  induction same with
  | nil => rfl
  | cons same _ ih => rw [List.map_cons, List.map_cons, (folds _ _ same).fold, ih]

/-! ### Models that differ in spelling -/

structure Column.Respelled (spelt : String → String → Prop) (column other : Column) : Prop where
  key : column.key = other.key
  used : column.used = other.used
  mirrored : column.mirrored = other.mirrored
  anonymous : column.anonymous = other.anonymous
  /-- A column that can be reported has a name that the statement spells. -/
  name : column.reportable = true → spelt column.name other.name

structure Definition.Respelled (spelt : String → String → Prop) (definition other : Definition) :
    Prop where
  name : spelt definition.name other.name
  columns : List.Forall₂ (Column.Respelled spelt) definition.columns other.columns

structure Model.Respelled (spelt : String → String → Prop) (model other : Model) : Prop where
  definitions : List.Forall₂ (Definition.Respelled spelt) model.definitions other.definitions
  latest : model.latest = other.latest

namespace Column

variable {column other : Column}

theorem Respelled.markUsed (same : column.Respelled spelt other) :
    column.markUsed.Respelled spelt other.markUsed :=
  { same with used := rfl }

theorem Respelled.violates (same : column.Respelled spelt other) :
    column.violates = other.violates := by
  simp only [Column.violates, Column.reportable, same.used, same.mirrored, same.anonymous]

end Column

/-- A column that a star passes on is not reported, so its spelling is free. -/
theorem respelled_passedOn {column other : Column} (same : column.Respelled spelt other)
    (span span' : Span) :
    Column.Respelled spelt { name := column.name, span, mirrored := true }
      { name := other.name, span := span', mirrored := true } where
  key := same.key
  used := rfl
  mirrored := rfl
  anonymous := rfl
  name := by simp [Column.reportable]

theorem respelled_renameColumns (folds : ∀ name other, spelt name other → SameFold name other)
    {columns columns' : List Column} {names names' : List String}
    (same : List.Forall₂ (Column.Respelled spelt) columns columns')
    (named : List.Forall₂ spelt names names') :
    List.Forall₂ (Column.Respelled spelt) (renameColumns columns names)
      (renameColumns columns' names') := by
  induction same generalizing names names' with
  | nil =>
    cases named <;> simp only [renameColumns] <;> exact .nil
  | cons head tail ih =>
    cases named with
    | nil => simpa only [renameColumns] using List.Forall₂.cons head tail
    | cons first rest =>
      exact .cons ⟨(folds _ _ first).fold, head.used, rfl, rfl, fun _ => first⟩ (ih rest)

theorem rel_getLastD {default default' : String} {names others : List String}
    (default_same : spelt default default') (same : List.Forall₂ spelt names others) :
    spelt (names.getLastD default) (others.getLastD default') := by
  induction same generalizing default default' with
  | nil => exact default_same
  | cons head _ ih =>
    rw [List.getLastD_cons, List.getLastD_cons]
    exact ih head

/-- An expression gives its column a name in both statements or in neither. -/
theorem respelled_implicitName {expr other : Expr} (same : expr.Respelled spelt other) :
    spelt (implicitName expr) (implicitName other) ∨
      implicitName expr = "" ∧ implicitName other = "" := by
  cases same with
  | column same => exact .inl (rel_getLastD same.column same.fields)
  | field _ name => exact .inl name
  | _ => exact .inr ⟨rfl, rfl⟩

section

variable (folds : ∀ name other, spelt name other → SameFold name other)
include folds

theorem respelled_defineColumn {expr expr' : Expr} {aliasName aliasName' : String}
    (same : expr.Respelled spelt expr') (named : spelt aliasName aliasName') (anonymous : Nat) :
    (defineColumn expr aliasName anonymous).1.Respelled spelt
        (defineColumn expr' aliasName' anonymous).1 ∧
      (defineColumn expr aliasName anonymous).2 = (defineColumn expr' aliasName' anonymous).2 := by
  have implicit : SameFold (implicitName expr) (implicitName expr') := by
    rcases respelled_implicitName same with same | ⟨none, none'⟩
    · exact folds _ _ same
    · rw [none, none']
      exact .refl ""
  have spelling (present : ¬(implicitName expr).isEmpty) :
      spelt (implicitName expr) (implicitName expr') := by
    rcases respelled_implicitName same with same | ⟨none, _⟩
    · exact same
    · exact absurd (by rw [none]; rfl) present
  unfold defineColumn
  rw [← (folds _ _ named).isEmpty, ← implicit.isEmpty]
  split
  · exact ⟨⟨(folds _ _ named).fold, rfl, rfl, rfl, fun _ => named⟩, rfl⟩
  · split
    · rename_i present
      exact ⟨⟨implicit.fold, rfl, rfl, rfl, fun _ => spelling (by simpa using present)⟩, rfl⟩
    · exact ⟨⟨rfl, rfl, rfl, rfl, by simp [Column.reportable]⟩, rfl⟩

end

/-! ### Marking -/

theorem rel_getElem? {α β : Type} {related : α → β → Prop} {as : List α} {bs : List β}
    (same : List.Forall₂ related as bs) (place : Nat) : Option.Rel related as[place]? bs[place]? := by
  induction same generalizing place with
  | nil => exact .none
  | cons head _ ih =>
    cases place with
    | zero => exact .some head
    | succ place => exact ih place

theorem rel_modify {α β : Type} {related : α → β → Prop} {f : α → α} {g : β → β} {as : List α}
    {bs : List β} (same : List.Forall₂ related as bs)
    (step : ∀ a b, related a b → related (f a) (g b)) (place : Nat) :
    List.Forall₂ related (as.modify place f) (bs.modify place g) := by
  induction same generalizing place with
  | nil => simp
  | cons head tail ih =>
    cases place with
    | zero => exact .cons (step _ _ head) tail
    | succ place => exact .cons head (ih place)

namespace Model.Respelled

variable {model other : Model}

theorem columns (same : model.Respelled spelt other) (id : Nat) :
    List.Forall₂ (Column.Respelled spelt) (model.columns id) (other.columns id) := by
  have found := rel_getElem? same.definitions id
  unfold Model.columns
  cases here : model.definitions[id]? <;> cases there : other.definitions[id]? <;>
    rw [here, there] at found <;> cases found
  · exact .nil
  · rename_i definition
    exact definition.columns

theorem markWhere (same : model.Respelled spelt other) (id : Nat) {selected selected' : Column → Bool}
    (alike : ∀ column other, column.Respelled spelt other → selected column = selected' other) :
    (model.markWhere id selected).Respelled spelt (other.markWhere id selected') where
  latest := same.latest
  definitions := by
    refine rel_modify same.definitions (fun definition other_definition paired => ?_) id
    refine ⟨paired.name, List.rel_map (fun column other_column paired => ?_) paired.columns⟩
    rw [alike _ _ paired]
    split
    · exact paired.markUsed
    · exact paired

theorem markKey (same : model.Respelled spelt other) (key : String) (id : Nat) :
    (model.markKey key id).Respelled spelt (other.markKey key id) :=
  same.markWhere id fun _ _ paired => by rw [paired.key]

theorem markWhole (same : model.Respelled spelt other) (id : Nat) :
    (model.markWhole id).Respelled spelt (other.markWhole id) :=
  same.markWhere id fun _ _ _ => rfl

theorem foldl {mark mark' : Model → Nat → Model} (ids : List Nat)
    (step : ∀ id {model other : Model}, model.Respelled spelt other →
      (mark model id).Respelled spelt (mark' other id))
    (same : model.Respelled spelt other) :
    (ids.foldl mark model).Respelled spelt (ids.foldl mark' other) :=
  List.foldl_rel same fun id _ _ _ paired => step id paired

theorem markAll (same : model.Respelled spelt other) (scope : Scope) :
    (model.markAll scope).Respelled spelt (other.markAll scope) :=
  foldl _ (fun id _ _ paired => paired.markWhole id) same

theorem hasKey (same : model.Respelled spelt other) (key : String) (id : Nat) :
    model.hasKey key id = other.hasKey key id := by
  have keys : (model.columns id).map Column.key = (other.columns id).map Column.key :=
    eq_of_forall₂ (List.rel_map (fun _ _ paired => paired.key) (same.columns id))
  have found := congrArg (List.any · (· == key)) keys
  simpa only [Model.hasKey, List.any_map, Function.comp_def] using found

theorem markBare (same : model.Respelled spelt other) (key : String) (chain : ScopeChain) :
    (model.markBare key chain).Respelled spelt (other.markBare key chain) := by
  induction chain with
  | nil => exact same
  | cons scope outer ih =>
    have present : model.hasKey key = other.hasKey key := funext (same.hasKey key)
    rw [Model.markBare, Model.markBare, present]
    split
    · exact foldl _ (fun id _ _ paired => paired.markKey key id) same
    · split
      · exact same.markWhole _
      · exact ih

theorem register (same : model.Respelled spelt other) {definition definition' : Definition}
    (paired : definition.Respelled spelt definition')
    (folded : Text.fold definition.name = Text.fold definition'.name) :
    (model.register definition).Respelled spelt (other.register definition') where
  definitions := List.rel_append same.definitions (.cons paired .nil)
  latest := by
    simp only [Model.register, folded, same.latest, same.definitions.length_eq]

theorem restoreNames (same : model.Respelled spelt other) (saved : SavedNames) :
    (model.restoreNames saved).Respelled spelt (other.restoreNames saved) where
  definitions := same.definitions
  latest := by simp only [Model.restoreNames, same.latest]

section

variable (folds : ∀ name other, spelt name other → SameFold name other)
include folds

theorem markRef (same : model.Respelled spelt other) (chain : ScopeChain) {ref ref' : ColumnRef}
    (paired : ref.Respelled spelt ref') :
    (model.markRef chain ref).Respelled spelt (other.markRef chain ref') := by
  have table := folds _ _ paired.table
  have column := folds _ _ paired.column
  unfold Model.markRef ScopeChain.resolve
  rw [← table.isEmpty, ← table.fold, ← column.fold]
  split
  · exact same.markBare _ chain
  · split
    · exact same.markKey _ _
    · exact same
    · exact same.markBare _ chain

theorem saveNames (same : model.Respelled spelt other) {names names' : List String}
    (named : List.Forall₂ spelt names names') : model.saveNames names = other.saveNames names' := by
  simp only [Model.saveNames, map_fold_eq folds named, same.latest]

theorem excepted_eq {modifiers modifiers' : List StarModifier}
    (same : List.Forall₂ (StarModifier.Respelled spelt) modifiers modifiers') :
    Model.excepted modifiers = Model.excepted modifiers' := by
  refine eq_of_forall₂ (List.rel_flatMap same fun modifier other paired => ?_)
  cases paired with
  | except columns => exact forall₂_of_eq (map_fold_eq folds columns)
  | replace => exact .nil

theorem replaced_eq {modifiers modifiers' : List StarModifier}
    (same : List.Forall₂ (StarModifier.Respelled spelt) modifiers modifiers') :
    Model.replaced modifiers = Model.replaced modifiers' := by
  refine eq_of_forall₂ (List.rel_flatMap same fun modifier other paired => ?_)
  cases paired with
  | except => exact .nil
  | replace items => exact List.rel_map (fun _ _ ⟨_, name⟩ => (folds _ _ name).fold) items

theorem expandStar (same : model.Respelled spelt other) (chain : ScopeChain) {table table' : String}
    (named : SameFold table table') (span span' : Span) {modifiers modifiers' : List StarModifier}
    (modified : List.Forall₂ (StarModifier.Respelled spelt) modifiers modifiers') :
    (model.expandStar chain table span modifiers).1.Respelled spelt
        (other.expandStar chain table' span' modifiers').1 ∧
      List.Forall₂ (Column.Respelled spelt) (model.expandStar chain table span modifiers).2
        (other.expandStar chain table' span' modifiers').2 := by
  have sources : Model.starSources chain table = Model.starSources chain table' := by
    simp only [Model.starSources, ScopeChain.resolve, named.isEmpty, named.fold]
  simp only [Model.expandStar, ← sources, ← excepted_eq folds modified, ← replaced_eq folds modified]
  refine ⟨foldl _ (fun id model other paired => paired.markWhere id fun column other paired => by
    rw [paired.key]) same, List.rel_flatMap (forall₂_of_eq rfl) fun id other paired => ?_⟩
  subst paired
  refine List.rel_map (R := Column.Respelled spelt) (fun column other paired => ?_) ?_
  · exact respelled_passedOn paired span span'
  refine List.rel_filter (fun column other paired => ?_) (same.columns id)
  simp only [paired.key]

end

end Model.Respelled

/-! ### Two runs side by side -/

structure Progress.Respelled (spelt : String → String → Prop) (progress other : Progress) : Prop where
  model : progress.model.Respelled spelt other.model
  chains : progress.chains = other.chains
  saved : progress.saved = other.saved
  columns : List.Forall₂ (List.Forall₂ (Column.Respelled spelt)) progress.columns other.columns

inductive Action.Respelled (spelt : String → String → Prop) : Action → Action → Prop
  | saveNames {names names'} : List.Forall₂ spelt names names' →
    Action.Respelled spelt (.saveNames names) (.saveNames names')
  | restoreNames : Action.Respelled spelt .restoreNames .restoreNames
  | beginDefinition : Action.Respelled spelt .beginDefinition .beginDefinition
  | define {name name' span span' names names'} : spelt name name' → List.Forall₂ spelt names names' →
    Action.Respelled spelt (.define name span names) (.define name' span' names')
  | defineUnread {name name' span span'} : spelt name name' →
    Action.Respelled spelt (.defineUnread name span) (.defineUnread name' span')
  | openScope : Action.Respelled spelt .openScope .openScope
  | closeScope : Action.Respelled spelt .closeScope .closeScope
  | bind {name name'} : spelt name name' → Action.Respelled spelt (.bind name) (.bind name')
  | bindTable {table table'} : table.Respelled spelt table' →
    Action.Respelled spelt (.bindTable table) (.bindTable table')
  | reference {ref ref'} : ref.Respelled spelt ref' →
    Action.Respelled spelt (.reference ref) (.reference ref')
  | readSources : Action.Respelled spelt .readSources .readSources
  | beginColumns : Action.Respelled spelt .beginColumns .beginColumns
  | column {column column'} : column.Respelled spelt column' →
    Action.Respelled spelt (.column column) (.column column')
  | star {table table' span span' modifiers modifiers'} : SameFold table table' →
    List.Forall₂ (StarModifier.Respelled spelt) modifiers modifiers' →
    Action.Respelled spelt (.star table span modifiers) (.star table' span' modifiers')
  | dropColumns : Action.Respelled spelt .dropColumns .dropColumns

theorem rel_headD {α : Type} {related : α → α → Prop} {as bs : List (List α)}
    (same : List.Forall₂ (List.Forall₂ related) as bs) :
    List.Forall₂ related (as.headD []) (bs.headD []) := by
  cases same with
  | nil => exact .nil
  | cons head _ => exact head

theorem rel_tail {α β : Type} {related : α → β → Prop} {as : List α} {bs : List β}
    (same : List.Forall₂ related as bs) : List.Forall₂ related as.tail bs.tail := by
  cases same with
  | nil => exact .nil
  | cons _ tail => exact tail

section

variable (folds : ∀ name other, spelt name other → SameFold name other)
include folds

theorem bind_eq {name name' : String} (same : spelt name name') (scope : Scope)
    (target : Option Nat) : scope.bind name target = scope.bind name' target := by
  simp only [Scope.bind, (folds _ _ same).isEmpty, (folds _ _ same).fold]

theorem TableName.Respelled.exposedName {table other : TableName} (same : table.Respelled spelt other) :
    spelt table.exposedName other.exposedName := by
  unfold TableName.exposedName
  rw [(folds _ _ same.aliasName).isEmpty]
  split
  · exact same.name
  · exact same.aliasName

theorem respelled_bindSource (chain : ScopeChain) (scope : Scope) {table other : TableName}
    (same : table.Respelled spelt other) {model model' : Model}
    (paired : model.Respelled spelt model') :
    (bindSource chain scope (.table table) model).1.Respelled spelt
        (bindSource chain scope (.table other) model').1 ∧
      (bindSource chain scope (.table table) model).2 =
        (bindSource chain scope (.table other) model').2 := by
  have dataset := folds _ _ same.dataset
  have resolved : ScopeChain.resolve (scope :: chain) table.dataset =
      ScopeChain.resolve (scope :: chain) other.dataset := by
    simp only [ScopeChain.resolve, dataset.fold]
  have found : model.lookup table.name = model'.lookup other.name := by
    simp only [Model.lookup, (folds _ _ same.name).fold, paired.latest]
  have exposed := bind_eq folds (TableName.Respelled.exposedName folds same) scope
  simp only [bindSource, (folds _ _ same.project).isEmpty, dataset.isEmpty, resolved, found, exposed]
  have marked :
      (model.markRef (scope :: chain) { table := table.dataset, column := table.name }).Respelled spelt
        (model'.markRef (scope :: chain) { table := other.dataset, column := other.name }) :=
    paired.markRef folds _ ⟨same.dataset, same.name, .nil⟩
  split
  · split
    · exact ⟨marked, rfl⟩
    · exact ⟨paired, rfl⟩
  · exact ⟨paired, rfl⟩

theorem Action.Respelled.apply {action action' : Action} (same : action.Respelled spelt action')
    {progress other : Progress} (paired : progress.Respelled spelt other) :
    (action.apply progress).Respelled spelt (action'.apply other) := by
  obtain ⟨model, chains, saved, columns⟩ := progress
  obtain ⟨model', _, _, columns'⟩ := other
  obtain ⟨models, rfl, rfl, found⟩ := paired
  cases same with
  | saveNames names => exact ⟨models, rfl, by simp only [Action.apply, models.saveNames folds names], found⟩
  | restoreNames => exact ⟨models.restoreNames _, rfl, rfl, found⟩
  | beginDefinition | openScope | closeScope => exact ⟨models, rfl, rfl, found⟩
  | define name names =>
    exact ⟨models.register ⟨name, respelled_renameColumns folds (rel_headD found) names⟩
      (folds _ _ name).fold, rfl, rfl, rel_tail found⟩
  | defineUnread name =>
    exact ⟨models.register ⟨name, .nil⟩ (folds _ _ name).fold, rfl, rfl, found⟩
  | bind name =>
    exact ⟨models, by simp only [Action.apply, Progress.withScope, Progress.scope, Progress.chain,
      bind_eq folds name], rfl, found⟩
  | bindTable table =>
    have bound := respelled_bindSource folds (chains.headD []).tail ((chains.headD []).headD [])
      table models
    refine ⟨bound.1, ?_, rfl, found⟩
    simp only [Action.apply, Progress.withScope, Progress.scope, Progress.chain, bound.2]
  | reference ref => exact ⟨models.markRef folds _ ref, rfl, rfl, found⟩
  | readSources => exact ⟨models.markAll _, rfl, rfl, found⟩
  | beginColumns => exact ⟨models, rfl, rfl, .cons .nil found⟩
  | column column =>
    exact ⟨models, rfl, rfl, .cons (List.rel_append (rel_headD found) (.cons column .nil))
      (rel_tail found)⟩
  | @star _ _ span span' _ _ table modifiers =>
    have expanded := models.expandStar folds (chains.headD []) table span span' modifiers
    exact ⟨expanded.1, rfl, rfl, .cons (List.rel_append (rel_headD found) expanded.2)
      (rel_tail found)⟩
  | dropColumns => exact ⟨models, rfl, rfl, rel_tail found⟩

/-- Actions that differ in spelling, carried out side by side. -/
theorem Progress.Respelled.run {actions actions' : List Action}
    (same : List.Forall₂ (Action.Respelled spelt) actions actions') {progress other : Progress}
    (paired : progress.Respelled spelt other) :
    (progress.run actions).Respelled spelt (other.run actions') := by
  induction same generalizing progress other with
  | nil => exact paired
  | cons head _ ih => exact ih (head.apply folds paired)

end

/-! ### The actions of two statements -/

theorem respelled_clauseNodes {block other : SelectBlock} (same : block.Respelled spelt other)
    (ordered : Bool) :
    NodesRespelled spelt (clauseNodes block ordered) (clauseNodes other ordered) := by
  obtain ⟨_, _, filter, groupBy, having, windows, qualify, orderBy, _, _⟩ := same
  have ordering := respelled_orderNodes orderBy
  refine List.rel_append (List.rel_append (List.rel_append (List.rel_append (List.rel_append
    (respelled_optionNodes filter) (respelled_exprNodes groupBy)) (respelled_optionNodes having))
    (respelled_windowNodes windows)) (respelled_optionNodes qualify)) ?_
  split
  · exact ordering
  · exact .nil

theorem isSome_eq {α β : Type} {related : α → β → Prop} {a : Option α} {b : Option β}
    (same : Option.Rel related a b) : a.isSome = b.isSome := by
  cases same <;> rfl

theorem hasLimit_eq {block other : SelectBlock} (same : block.Respelled spelt other) :
    block.hasLimit = other.hasLimit := by
  obtain ⟨_, _, _, _, _, _, _, _, limit, offset⟩ := same
  simp only [SelectBlock.hasLimit, isSome_eq limit, isSome_eq offset]

theorem rel_definedNames {definitions other : Option WithClause}
    (same : Option.Rel (WithClause.Respelled spelt) definitions other) :
    List.Forall₂ spelt (definedNames definitions) (definedNames other) := by
  cases same with
  | none => exact .nil
  | some same =>
    obtain ⟨ctes⟩ := same
    exact List.rel_map (fun _ _ ⟨name, _, _⟩ => name) ctes

abbrev ActionsRespelled (spelt : String → String → Prop) : List Action → List Action → Prop :=
  List.Forall₂ (Action.Respelled spelt)

theorem respelled_nodes {nodes others : List Node} (same : NodesRespelled spelt nodes others)
    (visit : ∀ node ∈ nodes, ∀ other, node.Respelled spelt other →
      ActionsRespelled spelt (nodeActions node) (nodeActions other)) :
    ActionsRespelled spelt (nodes.flatMap nodeActions) (others.flatMap nodeActions) := by
  induction same with
  | nil => exact .nil
  | @cons node other rest others head _ ih =>
    rw [List.flatMap_cons, List.flatMap_cons]
    exact List.rel_append (visit node (List.mem_cons_self ..) other head)
      (ih fun node member => visit node (List.mem_cons_of_mem _ member))

section Actions

variable (folds : ∀ name other, spelt name other → SameFold name other)
include folds

-- only the items of a block compare names; the other theorems need `folds` to get there
set_option linter.unusedSectionVars false

mutual

theorem respelled_queryActions (final : Bool) (query other : Query)
    (same : query.Respelled spelt other) :
    ActionsRespelled spelt (queryActions final query) (queryActions final other) := by
  obtain ⟨definitions, body⟩ := same
  simp only [queryActions]
  exact List.rel_append (List.rel_append (List.rel_append
    (.cons (.saveNames (rel_definedNames definitions)) .nil)
    (respelled_defineActions _ _ definitions)) (respelled_bodyActions final true _ _ body))
    (.cons .restoreNames .nil)
termination_by (sizeOf query, 0)
decreasing_by all_goals decreasing_with omega

theorem respelled_defineActions (definitions other : Option WithClause)
    (same : Option.Rel (WithClause.Respelled spelt) definitions other) :
    ActionsRespelled spelt (defineActions definitions) (defineActions other) := by
  cases same with
  | none => simp only [defineActions]; exact .nil
  | some same =>
    obtain ⟨ctes⟩ := same
    simp only [defineActions]
    exact respelled_cteActions _ _ ctes
termination_by (sizeOf definitions, 0)
decreasing_by all_goals decreasing_with omega

theorem respelled_cteActions (ctes others : List Cte)
    (same : List.Forall₂ (Cte.Respelled spelt) ctes others) :
    ActionsRespelled spelt (cteActions ctes) (cteActions others) := by
  cases same with
  | nil => simp only [cteActions]; exact .nil
  | cons head rest =>
    obtain ⟨name, columns, query⟩ := head
    cases query with
    | none =>
      simp only [cteActions]
      exact .cons (.defineUnread name) (respelled_cteActions _ _ rest)
    | some query =>
      simp only [cteActions]
      exact List.rel_append (List.rel_append (List.rel_append (.cons .beginDefinition .nil)
        (respelled_queryActions false _ _ query)) (.cons (.define name columns) .nil))
        (respelled_cteActions _ _ rest)
termination_by (sizeOf ctes, 0)
decreasing_by all_goals decreasing_with omega

theorem respelled_bodyActions (final first : Bool) (body other : QueryBody)
    (same : body.Respelled spelt other) :
    ActionsRespelled spelt (bodyActions final first body) (bodyActions final first other) := by
  cases same with
  | single operand =>
    cases operand with
    | block block => simpa only [bodyActions] using respelled_blockActions final _ _ block
    | nested query =>
      simpa only [bodyActions] using respelled_queryActions (final && first) _ _ query
  | combined left right =>
    cases left with
    | block block =>
      simp only [bodyActions]
      exact List.rel_append (List.rel_append (respelled_blockActions final _ _ block)
        (respelled_bodyActions final false _ _ right)) (.cons .dropColumns .nil)
    | nested query =>
      simp only [bodyActions]
      exact List.rel_append (List.rel_append (respelled_queryActions false _ _ query)
        (respelled_bodyActions final false _ _ right)) (.cons .dropColumns .nil)
termination_by (sizeOf body, 0)
decreasing_by all_goals decreasing_with omega

theorem respelled_blockActions (final : Bool) (block other : SelectBlock)
    (same : block.Respelled spelt other) :
    ActionsRespelled spelt (blockActions final block) (blockActions final other) := by
  have clauses := respelled_nodes (respelled_clauseNodes same (final || block.hasLimit))
    fun node _ other same => respelled_nodeActions node other same
  have items : List.Forall₂ (SelectItem.Respelled spelt) block.items other.items := by
    cases same; assumption
  have columns := respelled_itemActions block.items other.items items 0
  have sources : ActionsRespelled spelt (fromActions block.source) (fromActions other.source) := by
    have paired : Option.Rel (FromClause.Respelled spelt) block.source other.source := by
      cases same; assumption
    cases found : block.source <;> cases found' : other.source <;> rw [found, found'] at paired <;>
      cases paired
    · exact .nil
    · exact respelled_sourcesActions _ _ ‹_›
  rw [blockActions_eq, blockActions_eq, ← hasLimit_eq same]
  exact List.rel_append (List.rel_append (List.rel_append (List.rel_append (List.rel_append
    (.cons .openScope .nil) sources) clauses) (.cons .beginColumns .nil)) columns)
    (.cons .closeScope .nil)
termination_by (sizeOf block, 0)
decreasing_by
  · exact Prod.Lex.left _ _ (size_lt_of_mem_clauseNodes ‹_›)
  · exact Prod.Lex.left _ _ (size_items_lt block)
  · exact Prod.Lex.left _ _ (size_lt_of_source_eq_some found)

theorem respelled_sourcesActions (source other : FromClause) (same : source.Respelled spelt other) :
    ActionsRespelled spelt (sourcesActions source) (sourcesActions other) := by
  obtain ⟨first, joins⟩ := same
  simp only [sourcesActions]
  exact List.rel_append (respelled_sourceActions _ _ first) (respelled_joinActions _ _ joins)
termination_by (sizeOf source, 0)
decreasing_by all_goals decreasing_with omega

theorem respelled_joinActions (joins others : List Join)
    (same : List.Forall₂ (Join.Respelled spelt) joins others) :
    ActionsRespelled spelt (joinActions joins) (joinActions others) := by
  cases same with
  | nil => simp only [joinActions]; exact .nil
  | cons head rest =>
    obtain ⟨right, condition, columns⟩ := head
    have conditions := respelled_nodes
      (List.rel_append (respelled_optionNodes condition) (respelled_columnNodes columns))
      fun node _ other same => respelled_nodeActions node other same
    simp only [joinActions, flatMap_attach_nodeActions]
    exact List.rel_append (List.rel_append (respelled_sourceActions _ _ right) conditions)
      (respelled_joinActions _ _ rest)
termination_by (sizeOf joins, 0)
decreasing_by
  · have := size_lt_of_mem_joinNodes ‹_›
    apply Prod.Lex.left
    simp only [List.cons.sizeOf_spec, Join.mk.sizeOf_spec]
    omega
  all_goals
    apply Prod.Lex.left
    simp only [List.cons.sizeOf_spec, Join.mk.sizeOf_spec]
    omega

theorem respelled_sourceActions (source other : TableRef) (same : source.Respelled spelt other) :
    ActionsRespelled spelt (sourceActions source) (sourceActions other) := by
  cases same with
  | missing => simp only [sourceActions]; exact .nil
  | table table => simp only [sourceActions]; exact .cons (.bindTable table) .nil
  | derived query name =>
    simp only [sourceActions]
    exact List.rel_append (respelled_queryActions false _ _ query)
      (.cons .dropColumns (.cons (.bind name) .nil))
  | function call name offsetName =>
    simp only [sourceActions]
    exact List.rel_append (respelled_nodeActions _ _ (.expr call))
      (.cons (.bind name) (.cons (.bind offsetName) .nil))
  | pivot inner aggregates forColumn values name =>
    have columns := respelled_nodes (List.rel_append (List.rel_append
      (respelled_namedNodes aggregates) (respelled_columnNodes (.cons forColumn .nil)))
      (respelled_namedNodes values)) fun node _ other same => respelled_nodeActions node other same
    simp only [sourceActions, flatMap_attach_nodeActions]
    exact List.rel_append (List.rel_append (List.rel_append (.cons .openScope .nil)
      (respelled_sourceActions _ _ inner)) columns)
      (.cons .readSources (.cons .closeScope (.cons (.bind name) .nil)))
  | unpivot inner groups name =>
    simp only [sourceActions]
    exact List.rel_append (List.rel_append (List.rel_append (.cons .openScope .nil)
      (respelled_sourceActions _ _ inner))
      (List.rel_map (fun _ _ => .reference) (List.rel_flatMap groups fun _ _ group => group.columns)))
      (.cons .readSources (.cons .closeScope (.cons (.bind name) .nil)))
termination_by (sizeOf source, 0)
decreasing_by
  · apply Prod.Lex.left
    simp only [TableRef.derived.sizeOf_spec]
    omega
  · apply Prod.Lex.left
    simp only [Node.size, TableRef.function.sizeOf_spec]
    omega
  · exact Prod.Lex.left _ _ (size_lt_of_mem_pivotNodes ‹_›)
  · apply Prod.Lex.left
    simp only [TableRef.pivot.sizeOf_spec]
    omega
  · apply Prod.Lex.left
    simp only [TableRef.unpivot.sizeOf_spec]
    omega

theorem respelled_nodeActions (node other : Node) (same : node.Respelled spelt other) :
    ActionsRespelled spelt (nodeActions node) (nodeActions other) := by
  by_cases column : ∃ ref, node = .expr (.column ref)
  · obtain ⟨ref, rfl⟩ := column
    cases same with | expr same => cases same with | column ref =>
      simp only [nodeActions]
      exact .cons (.reference ref) .nil
  by_cases subquery : ∃ span query array, node = .expr (.subquery span query array)
  · obtain ⟨span, query, array, shape⟩ := subquery
    rw [shape] at same ⊢
    cases same with | expr same => cases same with | subquery nested =>
      simp only [nodeActions]
      exact List.rel_append (respelled_queryActions array _ _ nested) (.cons .dropColumns .nil)
  by_cases nested : ∃ query, node = .query query
  · obtain ⟨query, shape⟩ := nested
    rw [shape] at same ⊢
    cases same with | query nested =>
      simp only [nodeActions]
      exact List.rel_append (respelled_queryActions false _ _ nested) (.cons .dropColumns .nil)
  simp only [not_exists] at column subquery nested
  have column' : ∀ ref, other ≠ .expr (.column ref) := by
    rintro ref rfl
    cases same with | expr same => cases same with | column => exact column _ rfl
  have subquery' : ∀ span query array, other ≠ .expr (.subquery span query array) := by
    rintro span query array rfl
    cases same with | expr same => cases same with | subquery => exact subquery _ _ _ rfl
  have nested' : ∀ query, other ≠ .query query := by
    rintro query rfl
    cases same with | query => exact nested _ rfl
  rw [nodeActions_children column subquery nested, nodeActions_children column' subquery' nested']
  exact respelled_nodes same.children fun child _ other same =>
    respelled_nodeActions child other same
termination_by (node.size, 1)
decreasing_by
  · apply Prod.Lex.left
    simp only [shape, Node.size, Expr.subquery.sizeOf_spec]
    omega
  · rw [shape]
    exact Prod.Lex.right _ (by decide)
  · exact Prod.Lex.left _ _ (Node.size_lt_of_mem_children ‹_›)

theorem respelled_itemActions (items others : List SelectItem)
    (same : List.Forall₂ (SelectItem.Respelled spelt) items others) (anonymous : Nat) :
    ActionsRespelled spelt (itemActions items anonymous) (itemActions others anonymous) := by
  cases same with
  | nil => simp only [itemActions]; exact .nil
  | cons head rest =>
    cases head with
    | star modifiers =>
      simp only [itemActions]
      exact List.rel_append (respelled_starActions (.refl "") _ _ _ _ modifiers)
        (respelled_itemActions _ _ rest anonymous)
    | tableStar table modifiers =>
      simp only [itemActions]
      exact List.rel_append (respelled_starActions (folds _ _ table) _ _ _ _ modifiers)
        (respelled_itemActions _ _ rest anonymous)
    | expr expr name =>
      have column := respelled_defineColumn folds expr name anonymous
      simp only [itemActions, ← column.2]
      exact List.rel_append (List.rel_append (respelled_nodeActions _ _ (.expr expr))
        (.cons (.column column.1) .nil)) (respelled_itemActions _ _ rest _)
termination_by (sizeOf items, 0)
decreasing_by
  all_goals
    apply Prod.Lex.left
    simp only [Node.size, List.cons.sizeOf_spec, SelectItem.star.sizeOf_spec,
      SelectItem.tableStar.sizeOf_spec, SelectItem.expr.sizeOf_spec]
    omega

theorem respelled_starActions {table table' : String} (named : SameFold table table')
    (span span' : Span) (modifiers others : List StarModifier)
    (same : List.Forall₂ (StarModifier.Respelled spelt) modifiers others) :
    ActionsRespelled spelt (starActions table span modifiers) (starActions table' span' others) := by
  simp only [starActions, flatMap_attach_nodeActions]
  exact List.rel_append (respelled_nodes (respelled_modifierNodes same)
    fun node _ other same => respelled_nodeActions node other same) (.cons (.star named same) .nil)
termination_by (sizeOf modifiers, 0)
decreasing_by exact Prod.Lex.left _ _ (size_lt_of_mem_modifierNodes ‹_›)

end

theorem respelled_statementActions {query other : Query} (same : query.Respelled spelt other) :
    ActionsRespelled spelt (statementActions query) (statementActions other) := by
  obtain ⟨definitions, body⟩ := same
  exact List.rel_append (respelled_defineActions folds _ _ definitions)
    (respelled_bodyActions folds true true _ _ body)

end Actions

/-! ### Reports -/

/-- The columns to report, each with the place of its definition and its place among the columns of
that definition. -/
def Model.placedViolations (model : Model) : List ((Nat × Nat) × Violation) :=
  model.definitions.zipIdx.flatMap fun (definition, id) =>
    (definition.columns.zipIdx.filter fun (column, _) => column.violates).map fun (column, place) =>
      ((id, place), ⟨definition.name, column.name, column.span⟩)

theorem Model.map_snd_placedViolations (model : Model) :
    model.placedViolations.map Prod.snd = model.violations := by
  have columns (definition : Definition) (id : Nat) :
      ((definition.columns.zipIdx.filter fun (column, _) => column.violates).map
          fun (column, place) => ((id, place), (⟨definition.name, column.name, column.span⟩ :
            Violation))).map Prod.snd =
        (definition.columns.filter Column.violates).map fun column =>
          ⟨definition.name, column.name, column.span⟩ := by
    conv_rhs => rw [← List.zipIdx_map_fst 0 definition.columns]
    rw [List.filter_map, List.map_map, List.map_map]
    rfl
  unfold placedViolations violations
  rw [List.map_flatMap]
  conv_rhs => rw [← List.zipIdx_map_fst 0 model.definitions, List.flatMap_map]
  exact congrArg (List.flatMap · _) (funext fun (definition, id) => columns definition id)

theorem rel_zipIdx {α β : Type} {related : α → β → Prop} {as : List α} {bs : List β}
    (same : List.Forall₂ related as bs) (start : Nat) :
    List.Forall₂ (fun a b => related a.1 b.1 ∧ a.2 = b.2) (as.zipIdx start) (bs.zipIdx start) := by
  induction same generalizing start with
  | nil => exact .nil
  | cons head _ ih => exact .cons ⟨head, rfl⟩ (ih (start + 1))

theorem rel_map_filter {α β γ δ : Type} {related : α → β → Prop} {related' : γ → δ → Prop}
    {keep : α → Bool} {keep' : β → Bool} {f : α → γ} {g : β → δ} {as : List α} {bs : List β}
    (same : List.Forall₂ related as bs) (keeps : ∀ a b, related a b → keep a = keep' b)
    (step : ∀ a b, related a b → keep a = true → related' (f a) (g b)) :
    List.Forall₂ related' ((as.filter keep).map f) ((bs.filter keep').map g) := by
  induction same with
  | nil => exact .nil
  | @cons a b as bs head _ ih =>
    rw [List.filter_cons, List.filter_cons, ← keeps a b head]
    split
    · exact .cons (step a b head ‹_›) ih
    · exact ih

structure Violation.Respelled (spelt : String → String → Prop) (violation other : Violation) : Prop where
  definition : spelt violation.definition other.definition
  column : spelt violation.column other.column

theorem Column.reportable_of_violates {column : Column} (violates : column.violates = true) :
    column.reportable = true := by
  simp only [Column.violates, Bool.and_eq_true] at violates
  exact violates.2

theorem Model.Respelled.placedViolations {model other : Model}
    (same : model.Respelled spelt other) :
    List.Forall₂ (fun entry entry' => entry.1 = entry'.1 ∧ entry.2.Respelled spelt entry'.2)
      model.placedViolations other.placedViolations := by
  refine List.rel_flatMap (rel_zipIdx same.definitions 0) ?_
  rintro ⟨definition, id⟩ ⟨other, _⟩ ⟨paired, rfl⟩
  refine rel_map_filter (rel_zipIdx paired.columns 0) (fun _ _ column => column.1.violates) ?_
  rintro ⟨column, place⟩ ⟨column', _⟩ ⟨alike, rfl⟩ violates
  exact ⟨rfl, paired.name, alike.name (Column.reportable_of_violates violates)⟩

/-- The models of two statements that differ in spelling have the same definitions with the same
columns, used, passed on and anonymous alike; the same places are reported, each in the spelling of its
own statement. -/
theorem collect_respelled (folds : ∀ name other, spelt name other → SameFold name other)
    {query other : Query} (same : query.Respelled spelt other) :
    (collect query).Respelled spelt (collect other) ∧
      (collect query).placedViolations.map Prod.fst = (collect other).placedViolations.map Prod.fst ∧
      List.Forall₂ (Violation.Respelled spelt) (analyze query) (analyze other) := by
  have start : Progress.Respelled spelt {} {} := ⟨⟨.nil, rfl⟩, rfl, rfl, .nil⟩
  have models : (collect query).Respelled spelt (collect other) := by
    rw [← run_statementActions query, ← run_statementActions other]
    exact (start.run folds (respelled_statementActions folds same)).model
  have placed := models.placedViolations
  refine ⟨models, ?_, ?_⟩
  · exact eq_of_forall₂ (List.rel_map (fun _ _ entry => entry.1) placed)
  · rw [analyze, analyze, ← Model.map_snd_placedViolations, ← Model.map_snd_placedViolations]
    exact List.rel_map (fun _ _ entry => entry.2) placed

/-! A statement in two spellings. -/

/-- `WITH t AS (SELECT x AS a, y AS b FROM s) SELECT a FROM t`, where three names are left open. -/
def pairQuery (table first second : String) : Query :=
  let block := simpleBlock [.expr {} (.column { column := "x" }) first {},
    .expr {} (.column { column := "y" }) second {}] "s"
  ⟨{}, some ⟨{}, false, [⟨{}, table, {}, [], some ⟨{}, none, .single {} (.block block)⟩⟩]⟩,
    .single {} (.block (simpleBlock [.expr {} (.column { column := first }) "" {}] table))⟩

def Capitalized (name other : String) : Prop :=
  (name, other) ∈ [("", ""), ("x", "x"), ("y", "y"), ("s", "s"), ("t", "T"), ("a", "A"), ("b", "B")]

instance (name other : String) : Decidable (Capitalized name other) := inferInstanceAs (Decidable (_ ∈ _))

theorem sameFold_of_capitalized (name other : String) (same : Capitalized name other) :
    SameFold name other := by
  simp only [Capitalized, List.mem_cons, Prod.mk.injEq, List.not_mem_nil, or_false] at same
  obtain ⟨rfl, rfl⟩ | ⟨rfl, rfl⟩ | ⟨rfl, rfl⟩ | ⟨rfl, rfl⟩ | ⟨rfl, rfl⟩ | ⟨rfl, rfl⟩ | ⟨rfl, rfl⟩ := same
  all_goals exact ⟨by cbv, by cbv⟩

theorem respelled_simpleBlock {items others : List SelectItem} {source other : String}
    (same : List.Forall₂ (SelectItem.Respelled spelt) items others) (none : spelt "" "")
    (named : spelt source other) :
    (simpleBlock items source).Respelled spelt (simpleBlock others other) :=
  .mk same (.some (.mk (.table ⟨none, none, named, none⟩) .nil)) .none .nil .none .nil .none .nil .none
    .none

theorem pairQuery_capitalized : (pairQuery "t" "a" "b").Respelled Capitalized (pairQuery "T" "A" "B") := by
  have column {name other : String} (same : Capitalized name other) :
      (Expr.column { column := name }).Respelled Capitalized (.column { column := other }) :=
    .column ⟨show Capitalized "" "" by decide, same, .nil⟩
  exact .mk (.some (.mk (.cons (.mk (by decide) .nil (.some (.mk .none (.single (.block
    (respelled_simpleBlock (.cons (.expr (column (by decide)) (by decide))
      (.cons (.expr (column (by decide)) (by decide)) .nil)) (by decide) (by decide))))))) .nil)))
    (.single (.block (respelled_simpleBlock (.cons (.expr (column (by decide)) (by decide)) .nil)
      (by decide) (by decide))))

/-- Either spelling reports the second column, under its own names. -/
theorem pairQuery_reports :
    (pairQuery "t" "a" "b").Respelled Capitalized (pairQuery "T" "A" "B") ∧
      List.Forall₂ (Violation.Respelled Capitalized) (analyze (pairQuery "t" "a" "b"))
        (analyze (pairQuery "T" "A" "B")) ∧
      analyze (pairQuery "t" "a" "b") = [⟨"t", "b", {}⟩] ∧
      analyze (pairQuery "T" "A" "B") = [⟨"T", "B", {}⟩] :=
  ⟨pairQuery_capitalized, (collect_respelled sameFold_of_capitalized pairQuery_capitalized).2.2,
    by cbv, by cbv⟩

end QueryLint.Usage
