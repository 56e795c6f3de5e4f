import QueryLint.Proofs.Usage.Reading
import QueryLint.Proofs.Usage.Trace
import QueryLint.Proofs.Usage.UnusedColumn

/-!
What holds of the definitions, names and scopes whenever the pass is stopped. Definitions are only
added, behind those that are there; a name refers to a definition of that name; a scope binds
definitions that exist, each alias once. Every action keeps this (`Sound.apply`), so it holds after any
number of actions of any statement.
-/

namespace QueryLint.Usage

/-! ### Definitions are only added -/

/-- Up to marks, the later model has the definitions of the earlier one in their places and further
ones behind them. -/
def Model.Continues (earlier later : Model) : Prop :=
  earlier.definitions.map Definition.unmarked <+: later.definitions.map Definition.unmarked

def Model.Defines (model : Model) (key : String) (id : Nat) : Prop :=
  ∃ definition, model.definitions[id]? = some definition ∧ Text.fold definition.name = key

theorem Definition.unmarked_of_marking (definition : Definition) (reached : String → Prop) :
    (definition.marking reached).unmarked = definition.unmarked := by
  unfold Definition.marking Definition.unmarked
  rw [List.map_map]
  rfl

namespace Model

variable {earlier middle later model : Model}

theorem Continues.refl (model : Model) : model.Continues model := List.prefix_rfl

theorem Continues.trans (first : earlier.Continues middle) (second : middle.Continues later) :
    earlier.Continues later := List.IsPrefix.trans first second

theorem Continues.length_le (continues : earlier.Continues later) :
    earlier.definitions.length ≤ later.definitions.length := by
  simpa only [List.length_map] using List.IsPrefix.length_le continues

theorem continues_restoreNames (model : Model) (saved : SavedNames) :
    model.Continues (model.restoreNames saved) := List.prefix_rfl

theorem continues_marking (model : Model) (reached : Nat → String → Prop) :
    model.Continues (model.marking reached) := by
  have same : (model.marking reached).definitions.map Definition.unmarked =
      model.definitions.map Definition.unmarked := by
    apply List.ext_getElem?
    intro id
    simp only [marking, List.getElem?_map, List.getElem?_mapIdx, Option.map_map, Function.comp_def,
      Definition.unmarked_of_marking]
  unfold Continues
  exact same ▸ List.prefix_rfl

theorem continues_register (model : Model) (definition : Definition) :
    model.Continues (model.register definition) := by
  unfold Continues register
  rw [List.map_append]
  exact List.prefix_append _ _

theorem Defines.lt {key : String} {id : Nat} (defines : model.Defines key id) :
    id < model.definitions.length := by
  obtain ⟨definition, found, _⟩ := defines
  exact (List.getElem?_eq_some_iff.1 found).1

theorem Defines.mono {key : String} {id : Nat} (defines : earlier.Defines key id)
    (continues : earlier.Continues later) : later.Defines key id := by
  obtain ⟨definition, found, named⟩ := defines
  obtain ⟨further, split⟩ := continues
  have kept : (later.definitions.map Definition.unmarked)[id]? = some definition.unmarked := by
    rw [← split, List.getElem?_append_left (by simpa using (List.getElem?_eq_some_iff.1 found).1),
      List.getElem?_map, found]
    rfl
  rw [List.getElem?_map, Option.map_eq_some_iff] at kept
  obtain ⟨other, place, same⟩ := kept
  have names : other.unmarked.name = definition.unmarked.name := congrArg Definition.name same
  exact ⟨other, place, (congrArg Text.fold names).trans named⟩

theorem defines_register (model : Model) (definition : Definition) :
    (model.register definition).Defines (Text.fold definition.name) model.definitions.length :=
  ⟨definition, by simp [register], rfl⟩

end Model

/-! ### Scopes -/

structure Scope.Proper (scope : Scope) (count : Nat) : Prop where
  within : scope.Within count
  distinct : (scope.map (·.aliasName)).Nodup
  folded : ∀ binding ∈ scope, ∃ written : String,
    written.isEmpty = false ∧ binding.aliasName = Text.fold written

namespace Scope

variable {scope : Scope} {count larger : Nat}

theorem Proper.nil (count : Nat) : Proper [] count where
  within := List.forall_mem_nil _
  distinct := List.nodup_nil
  folded := List.forall_mem_nil _

theorem Proper.mono (proper : scope.Proper count) (le : count ≤ larger) : scope.Proper larger where
  within := proper.within.mono le
  distinct := proper.distinct
  folded := proper.folded

theorem mem_bindKey {key : String} {target : Option Nat} {binding : Binding}
    (member : binding ∈ bindKey key target scope) : binding ∈ scope ∨ binding = ⟨key, target⟩ := by
  induction scope with
  | nil => exact .inr (List.mem_singleton.1 member)
  | cons first rest ih =>
    unfold bindKey at member
    split at member
    · rcases List.mem_cons.1 member with same | later
      · exact .inr same
      · exact .inl (List.mem_cons_of_mem _ later)
    · rcases List.mem_cons.1 member with same | later
      · exact .inl (same ▸ List.mem_cons_self ..)
      · exact (ih later).imp_left (List.mem_cons_of_mem _)

theorem nodup_bindKey (distinct : (scope.map (·.aliasName)).Nodup) (key : String)
    (target : Option Nat) : ((bindKey key target scope).map (·.aliasName)).Nodup := by
  induction scope with
  | nil => simp [Scope.bindKey]
  | cons first rest ih =>
    rw [List.map_cons, List.nodup_cons] at distinct
    unfold bindKey
    split
    · next same =>
      rw [List.map_cons, List.nodup_cons]
      exact ⟨same ▸ distinct.1, distinct.2⟩
    · next different =>
      rw [List.map_cons, List.nodup_cons]
      constructor
      · intro again
        obtain ⟨binding, member, same⟩ := List.mem_map.1 again
        rcases mem_bindKey member with earlier | rfl
        · exact distinct.1 (same ▸ List.mem_map_of_mem earlier)
        · exact different same.symm
      · exact ih distinct.2

theorem Proper.bind (proper : scope.Proper count) (aliasName : String) {target : Option Nat}
    (existing : ∀ id, target = some id → id < count) : (scope.bind aliasName target).Proper count := by
  have within := proper.within.bind aliasName existing
  unfold Scope.bind at within ⊢
  split
  · exact proper
  · next named =>
    rw [if_neg named] at within
    refine ⟨within, nodup_bindKey proper.distinct _ _, ?_⟩
    intro binding member
    rcases mem_bindKey member with earlier | rfl
    · exact proper.folded binding earlier
    · exact ⟨aliasName, by simpa using named, rfl⟩

theorem Proper.bindNone (proper : scope.Proper count) (aliasName : String) :
    (scope.bind aliasName none).Proper count :=
  proper.bind aliasName nofun

end Scope

theorem bindSource_table (chain : ScopeChain) (scope : Scope) (table : TableName) (model : Model) :
    (∃ ref, bindSource chain scope (.table table) model =
      (model.markRef (scope :: chain) ref, scope.bind table.exposedName none)) ∨
    ∃ target, bindSource chain scope (.table table) model =
      (model, scope.bind table.exposedName target) ∧
      ∀ id, target = some id → model.lookup table.name = some id := by
  by_cases path : (if table.project.isEmpty && !table.dataset.isEmpty then
      ScopeChain.resolve (scope :: chain) table.dataset else none).isSome = true
  · left
    rw [bindSource, if_pos path]
    exact ⟨_, rfl⟩
  · right
    rw [bindSource, if_neg path]
    refine ⟨_, rfl, ?_⟩
    intro id target
    split at target
    · exact target
    · cases target

/-! ### The index of names -/

theorem nodup_keys_setKey {latest : List (String × Nat)} (distinct : (latest.map Prod.fst).Nodup)
    (key : String) (id : Nat) : ((setKey key id latest).map Prod.fst).Nodup := by
  induction latest with
  | nil => simp [setKey]
  | cons entry rest ih =>
    rw [List.map_cons, List.nodup_cons] at distinct
    unfold setKey
    split
    · next same =>
      rw [List.map_cons, List.nodup_cons]
      exact ⟨eq_of_beq same ▸ distinct.1, distinct.2⟩
    · next different =>
      rw [List.map_cons, List.nodup_cons]
      constructor
      · intro again
        rcases mem_keys_setKey again with same | later
        · exact different (beq_iff_eq.2 same)
        · exact distinct.1 later
      · exact ih distinct.2

/-- A name refers to a definition of that name, and each name is listed once. -/
structure Model.Indexed (model : Model) : Prop where
  named : ∀ entry ∈ model.latest, model.Defines entry.1 entry.2
  distinct : (model.latest.map Prod.fst).Nodup

namespace Model.Indexed

variable {model later : Model}

theorem lookup (indexed : model.Indexed) {name : String} {id : Nat}
    (found : model.lookup name = some id) : model.Defines (Text.fold name) id := by
  obtain ⟨before, after, split, _⟩ := List.lookup_eq_some_iff.1 found
  exact indexed.named (Text.fold name, id) (by simp [split])

theorem mono (indexed : model.Indexed) (continues : model.Continues later)
    (same : later.latest = model.latest) : later.Indexed where
  named := by
    intro entry member
    rw [same] at member
    exact (indexed.named entry member).mono continues
  distinct := same ▸ indexed.distinct

theorem register (indexed : model.Indexed) (definition : Definition) :
    (model.register definition).Indexed where
  named := by
    intro entry member
    rcases mem_setKey member with earlier | rfl
    · exact (indexed.named entry earlier).mono (continues_register model definition)
    · exact defines_register model definition
  distinct := nodup_keys_setKey indexed.distinct _ _

theorem restoreNames (indexed : model.Indexed) (saved : SavedNames)
    (defined : ∀ key id, (key, some id) ∈ saved → model.Defines key id) :
    (model.restoreNames saved).Indexed := by
  suffices steps : ∀ latest : List (String × Nat),
      ({ model with latest } : Model).Indexed →
      ({ model with latest := saved.foldl restoreName latest } : Model).Indexed from
    steps model.latest indexed
  induction saved with
  | nil => exact fun latest indexed => indexed
  | cons first rest ih =>
    intro latest indexed
    obtain ⟨key, value⟩ := first
    apply ih (fun key id member => defined key id (List.mem_cons_of_mem _ member))
    cases value with
    | some id =>
      constructor
      · intro entry member
        rcases mem_setKey member with earlier | rfl
        · exact indexed.named entry earlier
        · exact defined key id (List.mem_cons_self ..)
      · exact nodup_keys_setKey indexed.distinct key id
    | none =>
      constructor
      · exact fun entry member => indexed.named entry (List.mem_of_mem_filter member)
      · exact indexed.distinct.sublist (List.filter_sublist.map Prod.fst)

end Model.Indexed

/-! ### Every action -/

/-- What holds whenever the pass is stopped. -/
structure Progress.Sound (progress : Progress) : Prop where
  index : progress.model.Indexed
  saved : ∀ saved ∈ progress.saved, ∀ key id, (key, some id) ∈ saved →
    progress.model.Defines key id
  scopes : ∀ scope ∈ progress.chains.flatten, scope.Proper progress.model.definitions.length

namespace Progress

variable {progress : Progress}

theorem mem_flatten_of_mem_chain {scope : Scope} (member : scope ∈ progress.chain) :
    scope ∈ progress.chains.flatten := by
  unfold chain at member
  cases split : progress.chains with
  | nil => simp [split] at member
  | cons first rest => simp_all

theorem mem_flatten_of_mem_tail {scope : Scope} (member : scope ∈ progress.chains.tail.flatten) :
    scope ∈ progress.chains.flatten := by
  cases split : progress.chains with
  | nil => simp [split] at member
  | cons first rest => simp_all

namespace Sound

theorem start : ({} : Progress).Sound where
  index := ⟨nofun, List.nodup_nil⟩
  saved := List.forall_mem_nil _
  scopes := List.forall_mem_nil _

theorem withModel (sound : progress.Sound) {model : Model}
    (continues : progress.model.Continues model) (index : model.Indexed) :
    ({ progress with model } : Progress).Sound where
  index := index
  saved := fun saved member key id entry => (sound.saved saved member key id entry).mono continues
  scopes := fun scope member => (sound.scopes scope member).mono continues.length_le

theorem withMarks (sound : progress.Sound) (reached : Nat → String → Prop) :
    ({ progress with model := progress.model.marking reached } : Progress).Sound :=
  sound.withModel (Model.continues_marking _ reached)
    (sound.index.mono (Model.continues_marking _ reached) (Model.latest_marking _ reached))

theorem register (sound : progress.Sound) (definition : Definition) :
    ({ progress with model := progress.model.register definition } : Progress).Sound :=
  sound.withModel (Model.continues_register _ definition) (sound.index.register definition)

theorem withChains (sound : progress.Sound) {chains : List ScopeChain}
    (proper : ∀ scope ∈ chains.flatten, scope ∈ progress.chains.flatten ∨
      scope.Proper progress.model.definitions.length) :
    ({ progress with chains } : Progress).Sound where
  index := sound.index
  saved := sound.saved
  scopes := fun scope member => (proper scope member).elim (sound.scopes scope) id

theorem withColumns (sound : progress.Sound) (columns : List (List Column)) :
    ({ progress with columns } : Progress).Sound :=
  ⟨sound.index, sound.saved, sound.scopes⟩

theorem proper_scope (sound : progress.Sound) :
    progress.scope.Proper progress.model.definitions.length := by
  unfold Progress.scope
  cases split : progress.chain with
  | nil => exact Scope.Proper.nil _
  | cons scope outer =>
    apply sound.scopes
    apply mem_flatten_of_mem_chain
    rw [split]
    exact List.mem_cons_self ..

theorem withScope (sound : progress.Sound) {scope : Scope}
    (proper : scope.Proper progress.model.definitions.length) :
    (progress.withScope scope).Sound := by
  apply sound.withChains
  intro other member
  rw [List.flatten_cons, List.mem_append, List.mem_cons] at member
  rcases member with (rfl | outer) | further
  · exact .inr proper
  · exact .inl (mem_flatten_of_mem_chain (List.mem_of_mem_tail outer))
  · exact .inl (mem_flatten_of_mem_tail further)

theorem bindTable (sound : progress.Sound) (table : TableName) :
    ((Action.bindTable table).apply progress).Sound := by
  simp only [Action.apply]
  rcases bindSource_table progress.chain.tail progress.scope table progress.model with
    ⟨ref, visited⟩ | ⟨target, visited, named⟩
  · rw [visited, Model.markRef_eq]
    have bound := sound.withScope (sound.proper_scope.bindNone table.exposedName)
    exact bound.withMarks _
  · rw [visited]
    apply sound.withScope
    apply sound.proper_scope.bind
    intro id same
    exact (sound.index.lookup (named id same)).lt

/-- Every action keeps what holds. -/
theorem apply (sound : progress.Sound) (action : Action) : (action.apply progress).Sound := by
  cases action with
  | saveNames names =>
    refine ⟨sound.index, ?_, sound.scopes⟩
    intro saved member key id entry
    rcases List.mem_cons.1 member with rfl | earlier
    · simp only [Model.saveNames, List.mem_map, Prod.mk.injEq] at entry
      obtain ⟨name, -, rfl, found⟩ := entry
      obtain ⟨before, after, split, -⟩ := List.lookup_eq_some_iff.1 found
      exact sound.index.named (name, id) (by simp [split])
    · exact sound.saved saved earlier key id entry
  | restoreNames =>
    have first : ∀ key id, (key, some id) ∈ progress.saved.headD [] →
        progress.model.Defines key id := by
      intro key id member
      cases split : progress.saved with
      | nil => simp [split] at member
      | cons saved rest =>
        rw [split, List.headD_cons] at member
        exact sound.saved saved (split ▸ List.mem_cons_self ..) key id member
    have restored := sound.withModel (Model.continues_restoreNames _ _)
      (sound.index.restoreNames _ first)
    exact ⟨restored.index, fun saved member => restored.saved saved (List.mem_of_mem_tail member),
      restored.scopes⟩
  | beginDefinition =>
    apply sound.withChains
    intro scope member
    exact .inl (by simpa using member)
  | define name nameSpan names =>
    have closed : ({ progress with chains := progress.chains.tail } : Progress).Sound :=
      sound.withChains fun scope member => .inl (mem_flatten_of_mem_tail member)
    exact (closed.register _).withColumns _
  | defineUnread name nameSpan => exact sound.register _
  | openScope =>
    apply sound.withChains
    intro scope member
    rw [List.flatten_cons, List.mem_append, List.mem_cons] at member
    rcases member with (rfl | inner) | further
    · exact .inr (Scope.Proper.nil _)
    · exact .inl (mem_flatten_of_mem_chain inner)
    · exact .inl (mem_flatten_of_mem_tail further)
  | closeScope =>
    apply sound.withChains
    intro scope member
    rw [List.flatten_cons, List.mem_append] at member
    rcases member with outer | further
    · exact .inl (mem_flatten_of_mem_chain (List.mem_of_mem_tail outer))
    · exact .inl (mem_flatten_of_mem_tail further)
  | bind aliasName => exact sound.withScope (sound.proper_scope.bindNone aliasName)
  | bindTable table => exact sound.bindTable table
  | reference ref =>
    simp only [Action.apply, Model.markRef_eq]
    exact sound.withMarks _
  | readSources =>
    simp only [Action.apply, Model.markAll_eq]
    exact sound.withMarks _
  | beginColumns => exact sound.withColumns _
  | column found => exact sound.withColumns _
  | star table span modifiers =>
    simp only [Action.apply, Model.expandStar_eq]
    exact (sound.withMarks _).withColumns _
  | dropColumns => exact sound.withColumns _

theorem run (sound : progress.Sound) (actions : List Action) : (progress.run actions).Sound := by
  induction actions generalizing progress with
  | nil => exact sound
  | cons action rest ih => exact ih (sound.apply action)

theorem resolve_lt (sound : progress.Sound) {aliasName : String} {id : Nat}
    (found : progress.chain.resolve aliasName = some (some id)) :
    id < progress.model.definitions.length :=
  ScopeChain.lt_of_resolve (fun scope member =>
    (sound.scopes scope (mem_flatten_of_mem_chain member)).within) found

end Sound

theorem continues_apply (progress : Progress) (action : Action) :
    progress.model.Continues (action.apply progress).model := by
  cases action with
  | restoreNames => exact Model.continues_restoreNames _ _
  | define name nameSpan names => exact Model.continues_register _ _
  | defineUnread name nameSpan => exact Model.continues_register _ _
  | bindTable table =>
    simp only [Action.apply]
    rcases bindSource_table progress.chain.tail progress.scope table progress.model with
      ⟨ref, visited⟩ | ⟨target, visited, -⟩
    · rw [visited, Model.markRef_eq]
      exact Model.continues_marking _ _
    · rw [visited]
      exact Model.Continues.refl _
  | reference ref =>
    simp only [Action.apply, Model.markRef_eq]
    exact Model.continues_marking _ _
  | readSources =>
    simp only [Action.apply, Model.markAll_eq]
    exact Model.continues_marking _ _
  | star table span modifiers =>
    simp only [Action.apply, Model.expandStar_eq]
    exact Model.continues_marking _ _
  | _ => exact Model.Continues.refl _

theorem continues_run (progress : Progress) (actions : List Action) :
    progress.model.Continues (progress.run actions).model := by
  induction actions generalizing progress with
  | nil => exact Model.Continues.refl _
  | cons action rest ih => exact (progress.continues_apply action).trans (ih _)

end Progress

theorem statement_continues (chain : ScopeChain) (final : Bool) (query : Query) (model : Model) :
    model.Continues (statement chain final query model).1 := by
  have visited := run_queryActions chain [] final query model [] []
  have kept := (⟨model, [chain], [], []⟩ : Progress).continues_run (queryActions final query)
  rwa [visited] at kept

/-- The states in which the pass can be found are those after some of its actions; after all of them it
has collected the model. In each such state the number of a definition is its place, every name refers
to a definition of that name, every scope in use binds definitions that exist, each alias once, and so
whatever a name or an alias stands for exists. Later states have the definitions of earlier ones in
their places. A query leaves the index of names exactly as it was, whatever it defines. -/
theorem scope_model_sound (query : Query) :
    (({} : Progress).run (statementActions query)).model = collect query ∧
    (∀ count, let progress := ({} : Progress).run ((statementActions query).take count)
      progress.Sound ∧
      (∀ name id, progress.model.lookup name = some id → progress.model.Defines (Text.fold name) id) ∧
      (∀ aliasName id, progress.chain.resolve aliasName = some (some id) →
        id < progress.model.definitions.length) ∧
      ∀ later, count ≤ later → progress.model.Continues
        (({} : Progress).run ((statementActions query).take later)).model) ∧
    (∀ (model : Model) (definition : Definition),
      (model.register definition).lookup definition.name = some model.definitions.length ∧
      (model.register definition).definitions[model.definitions.length]? = some definition) ∧
    ∀ chain final nested model, (statement chain final nested model).1.latest = model.latest ∧
      model.Continues (statement chain final nested model).1 := by
  refine ⟨run_statementActions query, ?_, ?_, ?_⟩
  · intro count progress
    have sound : progress.Sound := Progress.Sound.start.run _
    refine ⟨sound, fun name id => sound.index.lookup, fun aliasName id => sound.resolve_lt, ?_⟩
    intro later le
    have split : (statementActions query).take later = (statementActions query).take count ++
        ((statementActions query).drop count).take (later - count) := by
      rw [← List.take_add, Nat.add_sub_cancel' le]
    rw [split, Progress.run_append]
    exact progress.continues_run _
  · intro model definition
    exact ⟨lookup_setKey _ _ _, by simp [Model.register]⟩
  · intro chain final nested model
    exact ⟨statement_latest chain final nested model, statement_continues chain final nested model⟩

/-- `WITH a AS (SELECT x FROM s) SELECT (WITH a AS (SELECT y FROM s) SELECT y FROM a), x FROM a`. -/
def shadowingQuery : Query :=
  let column (name : String) : Expr := .column { column := name }
  let body (exprs : List Expr) (source : String) : QueryBody :=
    .single {} (.block (simpleBlock (exprs.map fun expr => .expr {} expr "" {}) source))
  let make (name : String) : Option WithClause :=
    some ⟨{}, false, [⟨{}, "a", {}, [], some ⟨{}, none, body [column name] "s"⟩⟩]⟩
  let nested : Query := ⟨{}, make "y", body [column "y"] "a"⟩
  ⟨{}, make "x", body [.subquery {} nested false, column "x"] "a"⟩

/-- In the nested query `a` refers to the second definition, afterwards to the first one again. -/
theorem shadowing_query_restored :
    let inside := ({} : Progress).run ((statementActions shadowingQuery).take 25)
    inside.model.lookup "a" = some 1 ∧ inside.model.Defines (Text.fold "a") 1 ∧
    (collect shadowingQuery).lookup "a" = some 0 := by
  have latest : (({} : Progress).run ((statementActions shadowingQuery).take 25)).model.lookup "a" =
      some 1 := by cbv
  have sound := (scope_model_sound shadowingQuery).2.1 25
  exact ⟨latest, sound.2.1 "a" 1 latest, by cbv⟩

end QueryLint.Usage
