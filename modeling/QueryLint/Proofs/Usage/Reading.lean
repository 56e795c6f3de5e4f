import QueryLint.Proofs.Usage.Names

/-!
The single pass over a statement agrees with its outline. `Reads known sites model` says that a
model is what is known, with exactly those columns marked that the sites reach. Every visit keeps
this: it adds the definitions and the sites of the part that it visits.
-/

namespace QueryLint.Usage

/-! ### Existing definitions -/

/-- The scope binds only the first definitions. -/
def Scope.Within (scope : Scope) (count : Nat) : Prop := ∀ id ∈ scope.targets, id < count

def ScopeChain.Within (chain : ScopeChain) (count : Nat) : Prop :=
  ∀ scope ∈ chain, scope.Within count

def Site.Within : Site → Nat → Prop
  | .reference chain _, count => chain.Within count
  | .star chain _ _ _, count => chain.Within count
  | .whole scope, count => scope.Within count

def Model.Named (known : Model) : Prop :=
  ∀ entry ∈ known.latest, entry.2 < known.definitions.length

theorem Scope.Within.mono {scope : Scope} {count larger : Nat} (within : scope.Within count)
    (le : count ≤ larger) : scope.Within larger :=
  fun id member => Nat.lt_of_lt_of_le (within id member) le

theorem ScopeChain.Within.mono {chain : ScopeChain} {count larger : Nat}
    (within : chain.Within count) (le : count ≤ larger) : chain.Within larger :=
  fun scope member => (within scope member).mono le

theorem Site.Within.mono {site : Site} {count larger : Nat} (within : site.Within count)
    (le : count ≤ larger) : site.Within larger := by
  cases site with
  | reference chain ref => exact ScopeChain.Within.mono within le
  | star chain table excepted replaced => exact ScopeChain.Within.mono within le
  | whole scope => exact Scope.Within.mono within le

theorem ScopeChain.Within.cons {scope : Scope} {chain : ScopeChain} {count : Nat}
    (inner : scope.Within count) (outer : chain.Within count) :
    ScopeChain.Within (scope :: chain) count := by
  intro other member
  rcases List.mem_cons.1 member with rfl | member
  · exact inner
  · exact outer other member

theorem Scope.mem_targets_of_find? {scope : Scope} {key : String} {id : Nat}
    (found : scope.find? key = some (some id)) : id ∈ scope.targets := by
  simp only [Scope.find?, Option.map_eq_some_iff] at found
  obtain ⟨binding, member, target⟩ := found
  exact List.mem_filterMap.2 ⟨binding, List.mem_of_find?_eq_some member, target⟩

theorem ScopeChain.lt_of_resolve {chain : ScopeChain} {count : Nat} (within : chain.Within count)
    {aliasName : String} {id : Nat} (found : chain.resolve aliasName = some (some id)) :
    id < count := by
  obtain ⟨scope, member, found⟩ := List.exists_of_findSome?_eq_some found
  exact within scope member id (Scope.mem_targets_of_find? found)

theorem Scope.mem_targets_bindKey {scope : Scope} {key : String} {target : Option Nat} {id : Nat}
    (member : id ∈ Scope.targets (Scope.bindKey key target scope)) :
    id ∈ scope.targets ∨ target = some id := by
  induction scope with
  | nil => simpa [Scope.bindKey, Scope.targets, eq_comm] using member
  | cons binding rest ih =>
    unfold Scope.bindKey at member
    split at member
    · simp only [Scope.targets, List.mem_filterMap, List.mem_cons, exists_eq_or_imp] at member ⊢
      rcases member with same | later
      · exact .inr same
      · exact .inl (.inr later)
    · simp only [Scope.targets, List.mem_filterMap, List.mem_cons, exists_eq_or_imp] at member ih ⊢
      rcases member with same | later
      · exact .inl (.inl same)
      · rcases ih later with earlier | new
        · exact .inl (.inr earlier)
        · exact .inr new

theorem Scope.Within.bind {scope : Scope} {count : Nat} (within : scope.Within count)
    (aliasName : String) {target : Option Nat} (existing : ∀ id, target = some id → id < count) :
    (scope.bind aliasName target).Within count := by
  intro id member
  unfold Scope.bind at member
  split at member
  · exact within id member
  · rcases Scope.mem_targets_bindKey member with earlier | new
    · exact within id earlier
    · exact existing id new

theorem Scope.Within.bindNone {scope : Scope} {count : Nat} (within : scope.Within count)
    (aliasName : String) : (scope.bind aliasName none).Within count :=
  within.bind aliasName nofun

theorem Model.Named.lookup {known : Model} (named : known.Named) {name : String} {id : Nat}
    (found : known.lookup name = some id) : id < known.definitions.length := by
  obtain ⟨before, after, entries, _⟩ := List.lookup_eq_some_iff.1 found
  exact named (Text.fold name, id) (by simp [entries])

theorem Model.Named.register {known : Model} (named : known.Named) (definition : Definition) :
    (known.register definition).Named := by
  intro entry member
  simp only [Model.register, List.length_append, List.length_singleton]
  rcases mem_setKey member with earlier | rfl
  · exact Nat.lt_succ_of_lt (named entry earlier)
  · exact Nat.lt_succ_self _

theorem Model.Named.after {known : Model} (named : known.Named) (outline : Outline) :
    (known.after outline).Named := by
  intro entry member
  simp only [Model.definitions_after, List.length_append]
  exact Nat.lt_add_right _ (named entry member)

/-! ### Definitions made later play no part -/

theorem HasColumn.append {definitions more : List Definition} {id : Nat} {key : String}
    (existing : id < definitions.length) :
    HasColumn (definitions ++ more) id key ↔ HasColumn definitions id key := by
  unfold HasColumn
  rw [List.getElem?_append_left existing]

/-- A name stands for the same columns if its scopes, from the inside out, agree on where it is a
column. -/
theorem bare_cons_congr {first second : List Definition} {key : String} {scope : Scope}
    {outer : ScopeChain} {id : Nat} {other : String}
    (inner : ∀ id ∈ scope.targets, HasColumn first id key ↔ HasColumn second id key)
    (further : (∀ id ∈ scope.targets, ¬HasColumn first id key) →
      (∀ id, scope.find? key ≠ some (some id)) →
      (Bare first key outer id other ↔ Bare second key outer id other)) :
    Bare first key (scope :: outer) id other ↔ Bare second key (scope :: outer) id other := by
  by_cases present : ∃ id ∈ scope.targets, HasColumn first id key
  · have present' : ∃ id ∈ scope.targets, HasColumn second id key := by
      obtain ⟨id, member, has⟩ := present
      exact ⟨id, member, (inner id member).1 has⟩
    rw [Model.bare_iff_of_present present, Model.bare_iff_of_present present']
    constructor
    · rintro ⟨member, has, rfl⟩
      exact ⟨member, (inner id member).1 has, rfl⟩
    · rintro ⟨member, has, rfl⟩
      exact ⟨member, (inner id member).2 has, rfl⟩
  · have absent : ∀ id ∈ scope.targets, ¬HasColumn first id key :=
      fun id member has => present ⟨id, member, has⟩
    have absent' : ∀ id ∈ scope.targets, ¬HasColumn second id key :=
      fun id member has => present ⟨id, member, (inner id member).2 has⟩
    rw [Model.bare_iff_of_absent absent, Model.bare_iff_of_absent absent']
    split
    · rfl
    · next unbound => exact further absent unbound

theorem bare_congr {first second : List Definition} {key : String} {chain : ScopeChain} {count : Nat}
    (within : chain.Within count)
    (same : ∀ id < count, HasColumn first id key ↔ HasColumn second id key) (id : Nat)
    (other : String) : Bare first key chain id other ↔ Bare second key chain id other := by
  induction chain with
  | nil => exact ⟨nofun, nofun⟩
  | cons scope outer ih =>
    apply bare_cons_congr
    · intro id member
      exact same id (within scope (List.mem_cons_self ..) id member)
    · intro _ _
      exact ih fun scope member => within scope (List.mem_cons_of_mem _ member)

theorem Bare.lt {definitions : List Definition} {key : String} {chain : ScopeChain} {count : Nat}
    (within : chain.Within count) {id : Nat} {other : String}
    (reached : Bare definitions key chain id other) : id < count := by
  induction reached with
  | column bound _ => exact within _ (List.mem_cons_self ..) _ bound
  | row _ bound => exact within _ (List.mem_cons_self ..) _ (Scope.mem_targets_of_find? bound)
  | outer _ _ _ ih => exact ih fun scope member => within scope (List.mem_cons_of_mem _ member)

namespace Site

theorem reaches_congr {site : Site} {first second : List Definition} {count : Nat}
    (within : site.Within count)
    (same : ∀ id < count, ∀ key, HasColumn first id key ↔ HasColumn second id key) (id : Nat)
    (key : String) : site.Reaches first id key ↔ site.Reaches second id key := by
  cases site with
  | reference chain ref =>
    simp only [Reaches]
    split
    · exact bare_congr within (fun id lt => same id lt _) id key
    · split
      · rfl
      · rfl
      · exact bare_congr within (fun id lt => same id lt _) id key
  | star chain table excepted replaced => rfl
  | whole scope => rfl

theorem starSources_lt {chain : ScopeChain} {count : Nat} (within : chain.Within count)
    {table : String} {id : Nat} (member : id ∈ Model.starSources chain table) : id < count := by
  unfold Model.starSources at member
  split at member
  · cases chain with
    | nil => simp [Scope.targets] at member
    | cons scope outer => exact within scope (List.mem_cons_self ..) id member
  · simp only [Option.mem_toList, Option.bind_eq_some_iff, id_eq] at member
    obtain ⟨target, found, same⟩ := member
    exact ScopeChain.lt_of_resolve within (same ▸ found)

theorem Reaches.lt {site : Site} {definitions : List Definition} {count : Nat}
    (within : site.Within count) {id : Nat} {key : String} (reached : site.Reaches definitions id key) :
    id < count := by
  cases site with
  | reference chain ref =>
    simp only [Reaches] at reached
    split at reached
    · exact Bare.lt within reached
    · split at reached
      · next target found => exact reached.1 ▸ ScopeChain.lt_of_resolve within found
      · exact reached.elim
      · exact Bare.lt within reached
  | star chain table excepted replaced => exact starSources_lt within reached.1
  | whole scope => exact within id reached

end Site

theorem Model.register_marking {known : Model} {definition : Definition}
    {first second : Nat → String → Prop}
    (same : ∀ id < known.definitions.length, ∀ key, first id key ↔ second id key)
    (fresh : ∀ key, ¬second known.definitions.length key) :
    (known.marking first).register definition = (known.register definition).marking second := by
  have earlier : known.definitions.mapIdx (fun id d => d.marking (first id)) =
      known.definitions.mapIdx fun id d => d.marking (second id) := by
    rw [List.mapIdx_eq_mapIdx_iff]
    intro id existing
    have equal : first id = second id := funext fun key => propext (same id existing key)
    rw [equal]
  have last : second known.definitions.length = fun _ => False :=
    funext fun key => eq_false (fresh key)
  simp only [Model.register, Model.marking, List.mapIdx_concat, List.length_mapIdx, earlier, last,
    Definition.marking_none]

/-! ### The invariant of the pass -/

/-- The model is what is known, with exactly those columns marked that the sites reach. -/
structure Reads (known : Model) (sites : List Site) (model : Model) : Prop where
  marked : model = known.marking fun id key =>
    ∃ site ∈ sites, site.Reaches known.definitions id key
  within : ∀ site ∈ sites, site.Within known.definitions.length
  named : known.Named
  unused : ∀ definition ∈ known.definitions, ∀ column ∈ definition.columns, column.used = false

namespace Reads

variable {known model : Model} {sites : List Site}

theorem latest (reads : Reads known sites model) : model.latest = known.latest := by
  rw [reads.marked, Model.latest_marking]

theorem hasColumn (reads : Reads known sites model) (id : Nat) (key : String) :
    HasColumn model.definitions id key ↔ HasColumn known.definitions id key := by
  rw [← Model.hasKey_iff, ← Model.hasKey_iff, reads.marked, Model.hasKey_marking]

theorem read (reads : Reads known sites model) (site : Site)
    (within : site.Within known.definitions.length) :
    Reads known (sites ++ [site]) (model.marking (site.Reaches model.definitions)) where
  marked := by
    have resolved : model.marking (site.Reaches model.definitions) =
        model.marking (site.Reaches known.definitions) :=
      Model.marking_congr (Site.reaches_congr within fun id _ key => reads.hasColumn id key)
    rw [resolved]
    nth_rewrite 1 [reads.marked]
    rw [Model.marking_marking]
    apply Model.marking_congr
    intro id key
    simp only [List.mem_append, List.mem_singleton, or_and_right, exists_or, exists_eq_left]
  within := by
    intro other member
    rcases List.mem_append.1 member with earlier | same
    · exact reads.within other earlier
    · exact List.mem_singleton.1 same ▸ within
  named := reads.named
  unused := reads.unused

/-- A new definition is reached by no site so far. -/
theorem register (reads : Reads known sites model) (definition : Definition)
    (unused : ∀ column ∈ definition.columns, column.used = false) :
    Reads (known.register definition) sites (model.register definition) where
  marked := by
    nth_rewrite 1 [reads.marked]
    apply Model.register_marking
    · intro id existing key
      refine exists_congr fun site => and_congr_right fun member => ?_
      exact Site.reaches_congr (reads.within site member)
        (fun id existing key => (HasColumn.append existing).symm) id key
    · rintro key ⟨site, member, reached⟩
      exact Nat.lt_irrefl _ (Site.Reaches.lt (reads.within site member) reached)
  within := by
    intro site member
    apply (reads.within site member).mono
    simp [Model.register]
  named := reads.named.register definition
  unused := by
    intro other member
    rcases List.mem_append.1 member with earlier | same
    · exact reads.unused other earlier
    · exact List.mem_singleton.1 same ▸ unused

theorem restore (reads : Reads known sites model) (names : List (String × Nat))
    (named : Model.Named { known with latest := names }) :
    Reads { known with latest := names } sites { model with latest := names } where
  marked := by
    nth_rewrite 1 [reads.marked]
    rfl
  within := reads.within
  named := named
  unused := reads.unused

end Reads

/-! ### Outlines mark nothing -/

theorem defineColumn_unused (expr : Expr) (aliasName : String) (anonymous : Nat) :
    (defineColumn expr aliasName anonymous).1.used = false := by
  unfold defineColumn
  split_ifs <;> rfl

theorem passedOn_unused {known : Model} {chain : ScopeChain} {table : String} {span : Span}
    {modifiers : List StarModifier} {column : Column}
    (member : column ∈ known.passedOn chain table span modifiers) : column.used = false := by
  simp only [Model.passedOn, List.mem_flatMap, List.mem_map] at member
  obtain ⟨id, _, source, _, rfl⟩ := member
  rfl

theorem outlineItems_unused (chain : ScopeChain) (items : List SelectItem) (anonymous : Nat)
    (known : Model) : ∀ column ∈ (outlineItems chain items anonymous known).2,
      column.used = false := by
  induction items generalizing anonymous known with
  | nil => simp [outlineItems]
  | cons item rest ih =>
    intro column member
    cases item with
    | star span modifiers =>
      simp only [outlineItems, outlineStar_eq, List.mem_append] at member
      exact member.elim passedOn_unused (ih _ _ column)
    | tableStar span table modifiers =>
      simp only [outlineItems, outlineStar_eq, List.mem_append] at member
      exact member.elim passedOn_unused (ih _ _ column)
    | expr span expr aliasName aliasSpan =>
      simp only [outlineItems, List.mem_cons] at member
      rcases member with rfl | later
      · exact defineColumn_unused expr aliasName anonymous
      · exact ih _ _ column later

theorem renameColumns_unused {columns : List Column} (unused : ∀ column ∈ columns, column.used = false)
    (names : List String) : ∀ column ∈ renameColumns columns names, column.used = false := by
  induction columns generalizing names with
  | nil => simp [renameColumns]
  | cons first rest ih =>
    cases names with
    | nil => simpa [renameColumns] using unused
    | cons name names =>
      simp only [List.forall_mem_cons, renameColumns] at unused ⊢
      exact ⟨unused.1, ih unused.2 names⟩

mutual

theorem outlineQuery_unused (chain : ScopeChain) (final : Bool) (query : Query) (known : Model) :
    ∀ column ∈ (outlineQuery chain final query known).2, column.used = false := by
  match query with
  | ⟨_, definitions, body⟩ =>
    simpa [outlineQuery] using
      outlineBody_unused chain final true body (outlineWith definitions known).2
termination_by sizeOf query

theorem outlineBody_unused (chain : ScopeChain) (final first : Bool) (body : QueryBody)
    (known : Model) : ∀ column ∈ (outlineBody chain final first body known).2,
      column.used = false := by
  have block (block : SelectBlock) : ∀ column ∈ (outlineBlock chain final block known).2,
      column.used = false := by
    rw [outlineBlock_eq]
    exact outlineItems_unused _ block.items 0 _
  match body with
  | .single _ (.block inner) => simpa [outlineBody] using block inner
  | .single _ (.nested query) =>
    simpa [outlineBody] using outlineQuery_unused chain (final && first) query known
  | .combined _ (.block inner) _ _ right => simpa [outlineBody] using block inner
  | .combined _ (.nested query) _ _ right =>
    simpa [outlineBody] using outlineQuery_unused chain false query known
termination_by sizeOf body
decreasing_by all_goals decreasing_with omega

end

theorem outlineCtes_definitions (ctes : List Cte) (known : Model) :
    (outlineCtes ctes known).2.definitions =
      known.definitions ++ (outlineCtes ctes known).1.definitions := by
  induction ctes generalizing known with
  | nil => simp [outlineCtes]
  | cons cte rest ih =>
    obtain ⟨span, name, nameSpan, names, query⟩ := cte
    cases query with
    | none => simp [outlineCtes, ih, Model.register, Outline.definitions]
    | some query => simp [outlineCtes, ih, Model.register, Outline.definitions]

theorem outlineWith_definitions (definitions : Option WithClause) (known : Model) :
    (outlineWith definitions known).2.definitions =
      known.definitions ++ (outlineWith definitions known).1.definitions := by
  rcases definitions with _ | ⟨span, recursive, ctes⟩
  · simp [outlineWith]
  · simp only [outlineWith, outlineCtes_definitions]

theorem Reads.sequence {α : Type} {chain : ScopeChain} {part : α → Model → Outline}
    {visit : Model → α → Model} (parts : List α)
    (step : ∀ entry ∈ parts, ∀ known sites model, chain.Within known.definitions.length →
      Reads known sites model → Reads (known.after (part entry known))
        (sites ++ (part entry known).sites) (visit model entry))
    {known model : Model} {sites : List Site} (within : chain.Within known.definitions.length)
    (reads : Reads known sites model) :
    Reads (known.after (Outline.sequence part parts known))
      (sites ++ (Outline.sequence part parts known).sites) (parts.foldl visit model) := by
  induction parts generalizing known sites model with
  | nil => simpa [Outline.sequence] using reads
  | cons first rest ih =>
    have head := step first (List.mem_cons_self ..) known sites model within reads
    have longer : chain.Within (known.after (part first known)).definitions.length :=
      within.mono (by simp)
    have tail := ih (fun entry member => step entry (List.mem_cons_of_mem _ member)) longer head
    simpa [Outline.sequence] using tail

/-! ### Visits -/

theorem Reads.references {chain : ScopeChain} (refs : List ColumnRef) {known model : Model}
    {sites : List Site} (within : chain.Within known.definitions.length)
    (reads : Reads known sites model) :
    Reads known (sites ++ refs.map (.reference chain)) (refs.foldl (·.markRef chain ·) model) := by
  induction refs generalizing sites model with
  | nil => simpa using reads
  | cons ref refs ih =>
    have head := reads.read (.reference chain ref) within
    rw [← Model.markRef_eq] at head
    simpa using ih head

/-- A path into a column of an earlier source is a reference; any other source binds a name. -/
theorem bindTable_reads (chain : ScopeChain) (scope : Scope) (table : TableName) (known : Model)
    (sites : List Site) (model : Model) (within : chain.Within known.definitions.length)
    (bound : scope.Within known.definitions.length) (reads : Reads known sites model) :
    Reads (known.after (outlineSource chain scope (.table table) known).1)
      (sites ++ (outlineSource chain scope (.table table) known).1.sites)
      (bindSource chain scope (.table table) model).1 ∧
    (bindSource chain scope (.table table) model).2 =
      (outlineSource chain scope (.table table) known).2 ∧
    (outlineSource chain scope (.table table) known).2.Within
      (known.after (outlineSource chain scope (.table table) known).1).definitions.length := by
  have chains := ScopeChain.Within.cons bound within
  have lookup : model.lookup table.name = known.lookup table.name := by
    simp only [Model.lookup, reads.latest]
  rw [bindSource, outlineSource]
  by_cases project : table.project.isEmpty = true <;>
    by_cases dataset : table.dataset.isEmpty = true
  · have target : (scope.bind table.exposedName (known.lookup table.name)).Within
        known.definitions.length :=
      bound.bind table.exposedName fun id found => reads.named.lookup found
    simpa [project, dataset, lookup] using ⟨reads, target⟩
  · cases path : (ScopeChain.resolve (scope :: chain) table.dataset).isSome with
    | true =>
      have single := reads.read (.reference (scope :: chain)
        { table := table.dataset, column := table.name }) chains
      rw [← Model.markRef_eq] at single
      simpa [project, dataset, path] using ⟨single, bound.bindNone table.exposedName⟩
    | false => simpa [project, dataset, path] using ⟨reads, bound.bindNone table.exposedName⟩
  · simpa [project, dataset] using ⟨reads, bound.bindNone table.exposedName⟩
  · simpa [project, dataset] using ⟨reads, bound.bindNone table.exposedName⟩

mutual

theorem statement_reads (chain : ScopeChain) (final : Bool) (query : Query) (known : Model)
    (sites : List Site) (model : Model) (within : chain.Within known.definitions.length)
    (reads : Reads known sites model) :
    Reads (known.after (outlineQuery chain final query known).1)
      (sites ++ (outlineQuery chain final query known).1.sites)
      (statement chain final query model).1 ∧
    (statement chain final query model).2 = (outlineQuery chain final query known).2 := by
  match query with
  | ⟨span, definitions, body⟩ =>
    have inside := define_reads definitions known sites model reads
    have made := outlineWith_definitions definitions known
    have longer : chain.Within (outlineWith definitions known).2.definitions.length :=
      within.mono (by simp [made])
    obtain ⟨outer, columns⟩ :=
      bodyColumns_reads chain final true body _ _ _ longer inside
    have restored := outer.restore known.latest (by
      have named := reads.named.after ((outlineWith definitions known).1 ++
        (outlineBody chain final true body (outlineWith definitions known).2).1)
      simpa [Model.after, made, Model.Named] using named)
    refine ⟨?_, by simp only [statement_eq, outlineQuery, columns]⟩
    simpa [statement_eq, outlineQuery, reads.latest, Model.after, made] using restored
termination_by (sizeOf query, 0)
decreasing_by all_goals decreasing_with omega

theorem define_reads (definitions : Option WithClause) (known : Model) (sites : List Site)
    (model : Model) (reads : Reads known sites model) :
    Reads (outlineWith definitions known).2 (sites ++ (outlineWith definitions known).1.sites)
      (define definitions model) := by
  match definitions with
  | none => simpa [outlineWith, define] using reads
  | some ⟨_, _, ctes⟩ => simpa [outlineWith, define] using defineAll_reads ctes known sites model reads
termination_by (sizeOf definitions, 0)
decreasing_by all_goals decreasing_with omega

theorem defineAll_reads (ctes : List Cte) (known : Model) (sites : List Site) (model : Model)
    (reads : Reads known sites model) :
    Reads (outlineCtes ctes known).2 (sites ++ (outlineCtes ctes known).1.sites)
      (defineAll ctes model) := by
  match ctes with
  | [] => simpa [outlineCtes, defineAll] using reads
  | ⟨span, name, nameSpan, names, none⟩ :: rest =>
    have tail := defineAll_reads rest _ sites _
      (reads.register { name, nameSpan, columns := [] } (List.forall_mem_nil _))
    simpa [outlineCtes, defineAll] using tail
  | ⟨span, name, nameSpan, names, some query⟩ :: rest =>
    have within : ScopeChain.Within [] known.definitions.length := List.forall_mem_nil _
    obtain ⟨inner, columns⟩ := statement_reads [] false query known sites model within reads
    have unused := renameColumns_unused (outlineQuery_unused [] false query known) names
    have tail := defineAll_reads rest _ _ _
      (inner.register { name, nameSpan, columns := _ } unused)
    simpa [outlineCtes, defineAll, columns] using tail
termination_by (sizeOf ctes, 0)
decreasing_by all_goals decreasing_with omega

theorem bodyColumns_reads (chain : ScopeChain) (final first : Bool) (body : QueryBody)
    (known : Model) (sites : List Site) (model : Model)
    (within : chain.Within known.definitions.length) (reads : Reads known sites model) :
    Reads (known.after (outlineBody chain final first body known).1)
      (sites ++ (outlineBody chain final first body known).1.sites)
      (bodyColumns chain final first body model).1 ∧
    (bodyColumns chain final first body model).2 = (outlineBody chain final first body known).2 := by
  match body with
  | .single _ (.block block) =>
    simpa [bodyColumns, outlineBody] using
      blockColumns_reads chain final block known sites model within reads
  | .single _ (.nested query) =>
    simpa [bodyColumns, outlineBody] using
      statement_reads chain (final && first) query known sites model within reads
  | .combined _ (.block block) _ _ right =>
    obtain ⟨left, columns⟩ := blockColumns_reads chain final block known sites model within reads
    have tail := bodyColumns_reads chain final false right _ _ _ (within.mono (by simp)) left
    refine ⟨?_, by simp only [bodyColumns, outlineBody, columns]⟩
    simpa [bodyColumns, outlineBody] using tail.1
  | .combined _ (.nested query) _ _ right =>
    obtain ⟨left, columns⟩ := statement_reads chain false query known sites model within reads
    have tail := bodyColumns_reads chain final false right _ _ _ (within.mono (by simp)) left
    refine ⟨?_, by simp only [bodyColumns, outlineBody, columns]⟩
    simpa [bodyColumns, outlineBody] using tail.1
termination_by (sizeOf body, 0)
decreasing_by all_goals decreasing_with omega

theorem blockColumns_reads (chain : ScopeChain) (final : Bool) (block : SelectBlock)
    (known : Model) (sites : List Site) (model : Model)
    (within : chain.Within known.definitions.length) (reads : Reads known sites model) :
    Reads (known.after (outlineBlock chain final block known).1)
      (sites ++ (outlineBlock chain final block known).1.sites)
      (blockColumns chain final block model).1 ∧
    (blockColumns chain final block model).2 = (outlineBlock chain final block known).2 := by
  have clauses (scope : Scope) : ∀ node ∈ clauseNodes block (final || block.hasLimit),
      ∀ known sites model, ScopeChain.Within (scope :: chain) known.definitions.length →
        Reads known sites model → Reads (known.after (outlineNode (scope :: chain) node known))
          (sites ++ (outlineNode (scope :: chain) node known).sites)
          (mark (scope :: chain) node model) :=
    fun node member known sites model => mark_reads (scope :: chain) node known sites model
  rw [blockColumns_eq, outlineBlock_eq]
  cases found : block.source with
  | none =>
    have chains : ScopeChain.Within ([] :: chain) known.definitions.length := .cons (List.forall_mem_nil _) within
    have middle := Reads.sequence _ (clauses []) chains reads
    have tail := itemColumns_reads ([] :: chain) block.items 0 _ _ _ (chains.mono (by simp)) middle
    simpa [outlineFrom] using tail
  | some source =>
    obtain ⟨head, scope, bound⟩ := sources_reads chain source known sites model within reads
    have chains := ScopeChain.Within.cons bound (within.mono (by simp))
    have middle := Reads.sequence _ (clauses _) chains head
    have tail := itemColumns_reads _ block.items 0 _ _ _ (chains.mono (by simp)) middle
    simpa [outlineFrom, scope] using tail
termination_by (sizeOf block, 0)
decreasing_by
  · exact Prod.Lex.left _ _ (size_lt_of_mem_clauseNodes member)
  · exact Prod.Lex.left _ _ (size_items_lt block)
  · exact Prod.Lex.left _ _ (size_lt_of_source_eq_some found)
  · exact Prod.Lex.left _ _ (size_items_lt block)

theorem sources_reads (chain : ScopeChain) (source : FromClause) (known : Model)
    (sites : List Site) (model : Model) (within : chain.Within known.definitions.length)
    (reads : Reads known sites model) :
    Reads (known.after (outlineSources chain source known).1)
      (sites ++ (outlineSources chain source known).1.sites) (sources chain source model).1 ∧
    (sources chain source model).2 = (outlineSources chain source known).2 ∧
    (outlineSources chain source known).2.Within
      (known.after (outlineSources chain source known).1).definitions.length := by
  match source with
  | ⟨_, first, joins⟩ =>
    obtain ⟨head, scope, bound⟩ :=
      bindSource_reads chain [] first known sites model within (List.forall_mem_nil _) reads
    obtain ⟨tail, scopes, bounds⟩ :=
      joinSources_reads chain _ joins _ _ _ (within.mono (by simp)) bound head
    refine ⟨?_, ?_, ?_⟩
    · simpa [sources, outlineSources, scope] using tail
    · simpa [sources, outlineSources, scope] using scopes
    · simpa [outlineSources, Nat.add_assoc] using bounds
termination_by (sizeOf source, 0)
decreasing_by all_goals decreasing_with omega

theorem joinSources_reads (chain : ScopeChain) (scope : Scope) (joins : List Join) (known : Model)
    (sites : List Site) (model : Model) (within : chain.Within known.definitions.length)
    (bound : scope.Within known.definitions.length) (reads : Reads known sites model) :
    Reads (known.after (outlineJoins chain scope joins known).1)
      (sites ++ (outlineJoins chain scope joins known).1.sites)
      (joinSources chain scope joins model).1 ∧
    (joinSources chain scope joins model).2 = (outlineJoins chain scope joins known).2 ∧
    (outlineJoins chain scope joins known).2.Within
      (known.after (outlineJoins chain scope joins known).1).definitions.length := by
  match joins with
  | [] => simpa [joinSources, outlineJoins] using ⟨reads, bound⟩
  | ⟨span, kind, natural, right, condition, columns⟩ :: rest =>
    obtain ⟨head, inner, bounds⟩ :=
      bindSource_reads chain scope right known sites model within bound reads
    have chains := ScopeChain.Within.cons bounds (within.mono (by simp))
    have middle := Reads.sequence (optionNodes condition ++ columnNodes columns)
      (fun node member known sites model => mark_reads _ node known sites model) chains head
    obtain ⟨tail, scopes, further⟩ := joinSources_reads chain _ rest _ _ _
      (within.mono (by simp)) (bounds.mono (by simp)) middle
    rw [joinSources_cons, outlineJoins_cons]
    refine ⟨?_, ?_, ?_⟩
    · simpa [inner] using tail
    · simpa [inner] using scopes
    · simpa [Nat.add_assoc] using further
termination_by (sizeOf joins, 0)
decreasing_by
  · apply Prod.Lex.left
    simp only [List.cons.sizeOf_spec, Join.mk.sizeOf_spec]
    omega
  · have smaller := size_lt_of_mem_joinNodes member
    apply Prod.Lex.left
    simp only [List.cons.sizeOf_spec, Join.mk.sizeOf_spec]
    omega
  · apply Prod.Lex.left
    simp only [List.cons.sizeOf_spec, Join.mk.sizeOf_spec]
    omega

theorem bindSource_reads (chain : ScopeChain) (scope : Scope) (source : TableRef) (known : Model)
    (sites : List Site) (model : Model) (within : chain.Within known.definitions.length)
    (bound : scope.Within known.definitions.length) (reads : Reads known sites model) :
    Reads (known.after (outlineSource chain scope source known).1)
      (sites ++ (outlineSource chain scope source known).1.sites)
      (bindSource chain scope source model).1 ∧
    (bindSource chain scope source model).2 = (outlineSource chain scope source known).2 ∧
    (outlineSource chain scope source known).2.Within
      (known.after (outlineSource chain scope source known).1).definitions.length := by
  have chains := ScopeChain.Within.cons bound within
  match source with
  | .missing => simpa [bindSource, outlineSource] using ⟨reads, bound⟩
  | .table table => exact bindTable_reads chain scope table known sites model within bound reads
  | .derived span query aliasName =>
    have inner := statement_reads (scope :: chain) false query known sites model chains reads
    refine ⟨?_, ?_, ?_⟩
    · simpa [bindSource, outlineSource] using inner.1
    · simp only [bindSource, outlineSource]
    · simpa [outlineSource] using (bound.bindNone aliasName).mono (by simp)
  | .function span call aliasName withOffset offsetAlias =>
    have inner := mark_reads (scope :: chain) (.expr call) known sites model chains reads
    refine ⟨?_, ?_, ?_⟩
    · simpa [bindSource, outlineSource] using inner
    · simp only [bindSource, outlineSource]
    · simpa [outlineSource] using
        ((bound.bindNone aliasName).bindNone offsetAlias).mono (by simp)
  | .pivot span inner aggregates forColumn values aliasName =>
    obtain ⟨head, own, bounds⟩ :=
      bindSource_reads (scope :: chain) [] inner known sites model chains (List.forall_mem_nil _) reads
    have longer := ScopeChain.Within.cons bounds (chains.mono (by simp))
    have middle := Reads.sequence (pivotNodes aggregates forColumn values)
      (fun node member known sites model => mark_reads _ node known sites model) longer head
    have tail := middle.read (.whole _) (Scope.Within.mono bounds (by simp))
    rw [← Model.markAll_eq] at tail
    rw [outlineSource_pivot]
    refine ⟨?_, ?_, ?_⟩
    · simpa [bindSource, own, foldl_attach_mark] using tail
    · simp only [bindSource]
    · simpa using (bound.bindNone aliasName).mono (by simp)
  | .unpivot span inner valueColumns nameColumn groups aliasName =>
    obtain ⟨head, own, bounds⟩ :=
      bindSource_reads (scope :: chain) [] inner known sites model chains (List.forall_mem_nil _) reads
    have longer := ScopeChain.Within.cons bounds (chains.mono (by simp))
    have middle := head.references (groups.flatMap (·.columns)) longer
    have tail := middle.read (.whole _) bounds
    rw [← Model.markAll_eq] at tail
    refine ⟨?_, ?_, ?_⟩
    · simpa [bindSource, outlineSource, own] using tail
    · simp only [bindSource, outlineSource]
    · simpa [outlineSource] using (bound.bindNone aliasName).mono (by simp)
termination_by (sizeOf source, 0)
decreasing_by
  · apply Prod.Lex.left
    simp only [TableRef.derived.sizeOf_spec]
    omega
  · apply Prod.Lex.left
    simp only [Node.size, TableRef.function.sizeOf_spec]
    omega
  · apply Prod.Lex.left
    simp only [TableRef.pivot.sizeOf_spec]
    omega
  · exact Prod.Lex.left _ _ (size_lt_of_mem_pivotNodes member)
  · apply Prod.Lex.left
    simp only [TableRef.unpivot.sizeOf_spec]
    omega

theorem mark_reads (chain : ScopeChain) (node : Node) (known : Model) (sites : List Site)
    (model : Model) (within : chain.Within known.definitions.length)
    (reads : Reads known sites model) :
    Reads (known.after (outlineNode chain node known))
      (sites ++ (outlineNode chain node known).sites) (mark chain node model) := by
  by_cases column : ∃ ref, node = .expr (.column ref)
  · obtain ⟨ref, rfl⟩ := column
    have single := reads.read (.reference chain ref) within
    rw [← Model.markRef_eq] at single
    simpa [mark, outlineNode] using single
  by_cases subquery : ∃ span query array, node = .expr (.subquery span query array)
  · obtain ⟨span, query, array, shape⟩ := subquery
    simpa [shape, mark, outlineNode] using
      (statement_reads chain array query known sites model within reads).1
  by_cases nested : ∃ query, node = .query query
  · obtain ⟨query, shape⟩ := nested
    simpa [shape, mark, outlineNode] using
      (statement_reads chain false query known sites model within reads).1
  simp only [not_exists] at column subquery nested
  rw [mark_children column subquery nested, outlineNode_children column subquery nested]
  exact Reads.sequence node.children
    (fun child member known sites model => mark_reads chain child known sites model) within reads
termination_by (node.size, 1)
decreasing_by
  · apply Prod.Lex.left
    simp only [shape, Node.size, Expr.subquery.sizeOf_spec]
    omega
  · rw [shape]
    exact Prod.Lex.right _ (by decide)
  · exact Prod.Lex.left _ _ (Node.size_lt_of_mem_children member)

theorem itemColumns_reads (chain : ScopeChain) (items : List SelectItem) (anonymous : Nat)
    (known : Model) (sites : List Site) (model : Model)
    (within : chain.Within known.definitions.length) (reads : Reads known sites model) :
    Reads (known.after (outlineItems chain items anonymous known).1)
      (sites ++ (outlineItems chain items anonymous known).1.sites)
      (itemColumns chain items anonymous model).1 ∧
    (itemColumns chain items anonymous model).2 = (outlineItems chain items anonymous known).2 := by
  match items with
  | [] => simpa [itemColumns, outlineItems] using reads
  | .star span modifiers :: rest =>
    obtain ⟨head, columns⟩ := starColumns_reads chain "" span modifiers known sites model within reads
    have tail := itemColumns_reads chain rest anonymous _ _ _ (within.mono (by simp)) head
    simpa [itemColumns, outlineItems, columns] using tail
  | .tableStar span table modifiers :: rest =>
    obtain ⟨head, columns⟩ :=
      starColumns_reads chain table span modifiers known sites model within reads
    have tail := itemColumns_reads chain rest anonymous _ _ _ (within.mono (by simp)) head
    simpa [itemColumns, outlineItems, columns] using tail
  | .expr span expr aliasName aliasSpan :: rest =>
    have head := mark_reads chain (.expr expr) known sites model within reads
    have tail := itemColumns_reads chain rest
      (if (defineColumn expr aliasName anonymous).2 then anonymous + 1 else anonymous) _ _ _
      (within.mono (by simp)) head
    simpa [itemColumns, outlineItems] using tail
termination_by (sizeOf items, 0)
decreasing_by
  all_goals
    apply Prod.Lex.left
    simp only [Node.size, List.cons.sizeOf_spec, SelectItem.star.sizeOf_spec,
      SelectItem.tableStar.sizeOf_spec, SelectItem.expr.sizeOf_spec]
    omega

theorem starColumns_reads (chain : ScopeChain) (table : String) (span : Span)
    (modifiers : List StarModifier) (known : Model) (sites : List Site) (model : Model)
    (within : chain.Within known.definitions.length) (reads : Reads known sites model) :
    Reads (known.after (outlineStar chain table span modifiers known).1)
      (sites ++ (outlineStar chain table span modifiers known).1.sites)
      (starColumns chain table span modifiers model).1 ∧
    (starColumns chain table span modifiers model).2 =
      (outlineStar chain table span modifiers known).2 := by
  have head := Reads.sequence (modifiers.flatMap StarModifier.nodes)
    (fun node member known sites model => mark_reads chain node known sites model) within reads
  have tail := head.read
    (.star chain table (Model.excepted modifiers) (Model.replaced modifiers)) (ScopeChain.Within.mono within (by simp))
  rw [starColumns, foldl_attach_mark, Model.expandStar_eq, outlineStar_eq]
  refine ⟨by simpa using tail, ?_⟩
  rw [head.marked, Model.passedOn_marking]
termination_by (sizeOf modifiers, 0)
decreasing_by exact Prod.Lex.left _ _ (size_lt_of_mem_modifierNodes member)

end

theorem Reads.unmarked {known model : Model} {sites : List Site} (reads : Reads known sites model) :
    model.definitions.map Definition.unmarked = known.definitions := by
  rw [reads.marked]
  apply List.ext_getElem?
  intro id
  simp only [Model.marking, List.getElem?_map, List.getElem?_mapIdx, Option.map_map]
  cases found : known.definitions[id]? with
  | none => rfl
  | some definition =>
    have unused := reads.unused definition (List.mem_of_getElem? found)
    simp only [Option.map_some, Function.comp_apply, Definition.unmarked_marking unused]

theorem Reads.used_iff {known model : Model} {sites : List Site} (reads : Reads known sites model)
    {id : Nat} {column : Column} (member : column ∈ model.columns id) :
    column.used = true ↔ ∃ site ∈ sites, site.Reaches known.definitions id column.key := by
  rw [reads.marked, Model.columns_marking] at member
  obtain ⟨source, present, rfl⟩ := List.mem_map.1 member
  have unused : source.used = false := by
    simp only [Model.columns] at present
    cases found : known.definitions[id]? with
    | none => simp [found] at present
    | some definition =>
      exact reads.unused definition (List.mem_of_getElem? found) source (by simpa [found] using present)
  simp only [Column.used_marking, Column.key_marking, unused, Bool.false_eq_true, false_or]

/-- Everything that the outline of a statement makes, under the names of the outermost query. -/
def Outline.model (query : Query) : Model where
  definitions := (Outline.ofQuery query).definitions
  latest := (outlineWith query.definitions {}).2.latest

theorem Reads.empty : Reads {} [] {} where
  marked := by simp [Model.marking]
  within := List.forall_mem_nil _
  named := List.forall_mem_nil _
  unused := List.forall_mem_nil _

theorem collect_reads (query : Query) :
    Reads (Outline.model query) (Outline.ofQuery query).sites (collect query) := by
  have inside := define_reads query.definitions {} [] {} .empty
  have outer := (bodyColumns_reads [] true true query.body _ _ _ (List.forall_mem_nil _) inside).1
  simpa [collect, Outline.model, Outline.ofQuery, Model.after, outlineWith_definitions] using outer

/-- Collecting in one pass agrees with the two phases: it registers exactly the definitions of the
outline, in their order, and a column is marked if and only if a site of the outline reaches it. -/
theorem collect_agrees_with_outline (query : Query) :
    (collect query).definitions.map Definition.unmarked = (Outline.ofQuery query).definitions ∧
    ∀ id, ∀ column ∈ (collect query).columns id,
      (column.used = true ↔ ∃ site ∈ (Outline.ofQuery query).sites,
        site.Reaches (Outline.ofQuery query).definitions id column.key) :=
  ⟨(collect_reads query).unmarked, fun _ _ => (collect_reads query).used_iff⟩

end QueryLint.Usage
