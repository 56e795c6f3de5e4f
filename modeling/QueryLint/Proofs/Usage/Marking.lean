import QueryLint.Proofs.Usage.Outline
import Mathlib.Data.List.Basic

/-!
Marking as one operation. `Model.marking` marks every column whose definition and folded name
satisfy a predicate; resolving a reference, expanding a star and reading a whole source are all of
this form, with the predicate `Site.Reaches`.
-/

namespace QueryLint.Usage

open scoped Classical

def Column.unmarked (column : Column) : Column := { column with used := false }

def Definition.unmarked (definition : Definition) : Definition :=
  { definition with columns := definition.columns.map Column.unmarked }

noncomputable section

def Column.marking (column : Column) (reached : String → Prop) : Column :=
  { column with used := column.used || decide (reached column.key) }

def Definition.marking (definition : Definition) (reached : String → Prop) : Definition :=
  { definition with columns := definition.columns.map (·.marking reached) }

/-- Marks the columns of every definition whose folded names satisfy a predicate. -/
def Model.marking (model : Model) (reached : Nat → String → Prop) : Model :=
  { model with definitions := model.definitions.mapIdx fun id d => d.marking (reached id) }

end

@[simp] theorem Column.key_marking (column : Column) (reached : String → Prop) :
    (column.marking reached).key = column.key := rfl

theorem Column.used_marking (column : Column) (reached : String → Prop) :
    (column.marking reached).used = true ↔ column.used = true ∨ reached column.key := by
  simp [Column.marking]

theorem Column.marking_marking (column : Column) (first second : String → Prop) :
    (column.marking first).marking second = column.marking fun key => first key ∨ second key := by
  by_cases reached : first column.key <;> by_cases later : second column.key <;>
    simp_all [Column.marking, Column.key]

theorem Definition.marking_marking (definition : Definition) (first second : String → Prop) :
    (definition.marking first).marking second =
      definition.marking fun key => first key ∨ second key := by
  simp only [Definition.marking, List.map_map, Function.comp_def, Column.marking_marking]

theorem Definition.unmarked_marking {definition : Definition}
    (unused : ∀ column ∈ definition.columns, column.used = false) (reached : String → Prop) :
    (definition.marking reached).unmarked = definition := by
  have columns : ∀ column ∈ definition.columns, (column.marking reached).unmarked = column := by
    intro column member
    have known := unused column member
    cases column
    simp_all [Column.marking, Column.unmarked]
  simp only [Definition.marking, Definition.unmarked, List.map_map, Function.comp_def]
  rw [List.map_congr_left columns, List.map_id']

theorem Definition.marking_none (definition : Definition) :
    definition.marking (fun _ => False) = definition := by
  simp [Definition.marking, Column.marking]

namespace Model

variable {model : Model} {first second : Nat → String → Prop}

@[simp] theorem latest_marking (model : Model) (reached : Nat → String → Prop) :
    (model.marking reached).latest = model.latest := rfl

@[simp] theorem length_definitions_marking (model : Model) (reached : Nat → String → Prop) :
    (model.marking reached).definitions.length = model.definitions.length := by
  simp [marking]

theorem marking_marking (model : Model) (first second : Nat → String → Prop) :
    (model.marking first).marking second = model.marking fun id key => first id key ∨ second id key := by
  simp only [marking, List.mapIdx_mapIdx, Function.comp_def, Definition.marking_marking]

theorem marking_congr_of_columns
    (same : ∀ id, ∀ column ∈ model.columns id, first id column.key ↔ second id column.key) :
    model.marking first = model.marking second := by
  simp only [marking]
  congr 1
  apply List.ext_getElem?
  intro id
  simp only [List.getElem?_mapIdx]
  cases found : model.definitions[id]? with
  | none => rfl
  | some definition =>
    have known : model.columns id = definition.columns := by simp [columns, found]
    simp only [Option.map_some, Definition.marking]
    congr 2
    apply List.map_congr_left
    intro column member
    simp only [Column.marking, same id column (known ▸ member)]

theorem marking_congr (same : ∀ id key, first id key ↔ second id key) :
    model.marking first = model.marking second :=
  marking_congr_of_columns fun id column _ => same id column.key

theorem marking_none (model : Model) : model.marking (fun _ _ => False) = model := by
  simp only [marking, Definition.marking_none]
  congr 1
  apply List.ext_getElem?
  intro id
  simp

theorem columns_marking (model : Model) (reached : Nat → String → Prop) (id : Nat) :
    (model.marking reached).columns id = (model.columns id).map (·.marking (reached id)) := by
  simp only [columns, marking, List.getElem?_mapIdx, Option.map_map]
  cases model.definitions[id]? <;> rfl

theorem hasKey_marking (model : Model) (reached : Nat → String → Prop) (key : String) (id : Nat) :
    (model.marking reached).hasKey key id = model.hasKey key id := by
  simp only [hasKey, columns_marking, List.any_map, Function.comp_def, Column.key_marking]

theorem hasKey_iff (model : Model) (key : String) (id : Nat) :
    model.hasKey key id = true ↔ HasColumn model.definitions id key := by
  simp only [hasKey, columns, HasColumn, List.any_eq_true, beq_iff_eq]
  cases model.definitions[id]? <;> simp

theorem hasColumn_of_mem {id : Nat} {column : Column} (member : column ∈ model.columns id) :
    HasColumn model.definitions id column.key := by
  rw [← hasKey_iff, hasKey, List.any_eq_true]
  exact ⟨column, member, by simp⟩

/-! ### The operations that mark -/

theorem markWhere_eq (model : Model) (id : Nat) (selected : Column → Bool) (reached : String → Prop)
    (same : ∀ column : Column, selected column = true ↔ reached column.key) :
    model.markWhere id selected = model.marking fun other key => other = id ∧ reached key := by
  simp only [markWhere, marking]
  congr 1
  apply List.ext_getElem?
  intro other
  rw [List.getElem?_modify, List.getElem?_mapIdx]
  by_cases here : id = other
  · subst here
    have columns : ∀ column : Column, (if selected column = true then column.markUsed else column) =
        column.marking fun key => id = id ∧ reached key := by
      intro column
      by_cases chosen : selected column = true
      · simp [Column.marking, Column.markUsed, (same column).1 chosen, chosen]
      · simp [Column.marking, chosen, mt (same column).2 chosen]
    simp only [if_true, Definition.marking, columns]
    rfl
  · have elsewhere : ¬other = id := fun equal => here equal.symm
    simp [here, elsewhere, Definition.marking_none]

theorem markKey_eq (model : Model) (key : String) (id : Nat) :
    model.markKey key id = model.marking fun other name => other = id ∧ name = key :=
  markWhere_eq model id _ (· = key) (by simp)

theorem markWhole_eq (model : Model) (id : Nat) :
    model.markWhole id = model.marking fun other _ => other = id := by
  rw [markWhole, markWhere_eq model id _ (fun _ => True) (by simp)]
  exact marking_congr (by simp)

theorem foldl_marking (mark : Model → Nat → Model) (reached : Nat → String → Prop)
    (step : ∀ model id, mark model id = model.marking fun other key => other = id ∧ reached id key)
    (ids : List Nat) (model : Model) :
    ids.foldl mark model = model.marking fun id key => id ∈ ids ∧ reached id key := by
  induction ids generalizing model with
  | nil => simpa using (marking_none model).symm
  | cons id ids ih =>
    rw [List.foldl_cons, ih, step, marking_marking]
    apply marking_congr
    intro other key
    simp only [List.mem_cons]
    constructor
    · rintro (⟨rfl, chosen⟩ | ⟨present, chosen⟩)
      · exact ⟨.inl rfl, chosen⟩
      · exact ⟨.inr present, chosen⟩
    · rintro ⟨rfl | present, chosen⟩
      · exact .inl ⟨rfl, chosen⟩
      · exact .inr ⟨present, chosen⟩

theorem markAll_eq (model : Model) (scope : Scope) :
    model.markAll scope = model.marking ((Site.whole scope).Reaches model.definitions) := by
  rw [markAll, foldl_marking markWhole (fun _ _ => True) (by simp [markWhole_eq])]
  exact marking_congr (by simp [Site.Reaches])

/-- The name stands for columns of the innermost scope. -/
theorem bare_iff_of_present {definitions : List Definition} {key : String} {scope : Scope}
    {outer : ScopeChain} (present : ∃ id ∈ scope.targets, HasColumn definitions id key) (id : Nat)
    (other : String) : Bare definitions key (scope :: outer) id other ↔
      id ∈ scope.targets ∧ HasColumn definitions id key ∧ other = key := by
  obtain ⟨witness, bound, has⟩ := present
  constructor
  · rintro (⟨bound, has⟩ | ⟨absent, _⟩ | ⟨absent, _, _⟩)
    · exact ⟨bound, has, rfl⟩
    · exact absurd has (absent witness bound)
    · exact absurd has (absent witness bound)
  · rintro ⟨bound, has, rfl⟩
    exact .column bound has

/-- The name stands for a row, or it is left to the scopes further out. -/
theorem bare_iff_of_absent {definitions : List Definition} {key : String} {scope : Scope}
    {outer : ScopeChain} (absent : ∀ id ∈ scope.targets, ¬HasColumn definitions id key) (id : Nat)
    (other : String) : Bare definitions key (scope :: outer) id other ↔
      match scope.find? key with
      | some (some target) => id = target
      | _ => Bare definitions key outer id other := by
  constructor
  · rintro (⟨bound, has⟩ | ⟨_, bound⟩ | ⟨_, unbound, further⟩)
    · exact absurd has (absent id bound)
    · simp only [bound]
    · split
      · next target bound => exact absurd bound (unbound target)
      · exact further
  · intro reached
    split at reached
    · next target bound => exact reached ▸ .row absent bound
    · next unbound => exact .outer absent unbound reached

theorem markBare_eq (model : Model) (key : String) (chain : ScopeChain) :
    model.markBare key chain = model.marking (Bare model.definitions key chain) := by
  induction chain with
  | nil =>
    rw [markBare]
    nth_rewrite 1 [← marking_none model]
    exact marking_congr fun id other => ⟨False.elim, nofun⟩
  | cons scope outer ih =>
    unfold markBare
    split
    · next found =>
      have present : ∃ id ∈ scope.targets, HasColumn model.definitions id key := by
        simpa only [List.any_eq_true, hasKey_iff] using found
      rw [foldl_marking (fun model id => model.markKey key id) (fun _ name => name = key)
        (fun model id => markKey_eq model key id)]
      apply marking_congr_of_columns
      intro id column member
      rw [bare_iff_of_present present]
      constructor
      · rintro ⟨bound, named⟩
        exact ⟨bound, named ▸ hasColumn_of_mem member, named⟩
      · rintro ⟨bound, _, named⟩
        exact ⟨bound, named⟩
    · next missing =>
      have absent : ∀ id ∈ scope.targets, ¬HasColumn model.definitions id key := by
        simpa only [List.any_eq_true, hasKey_iff, not_exists, not_and] using missing
      split
      · next id bound =>
        rw [markWhole_eq]
        apply marking_congr
        intro other name
        simp only [bare_iff_of_absent absent, bound]
      · next unbound =>
        rw [ih]
        apply marking_congr
        intro other name
        rw [bare_iff_of_absent absent]
        split
        · next target bound => exact absurd bound (unbound target)
        · rfl

theorem markRef_eq (model : Model) (chain : ScopeChain) (ref : ColumnRef) :
    model.markRef chain ref =
      model.marking ((Site.reference chain ref).Reaches model.definitions) := by
  unfold markRef
  split
  · next bare =>
    rw [markBare_eq]
    exact marking_congr (by simp [Site.Reaches, bare])
  · next qualified =>
    split
    · next id bound =>
      rw [markKey_eq]
      exact marking_congr (by simp [Site.Reaches, qualified, bound])
    · next bound =>
      nth_rewrite 1 [← marking_none model]
      exact marking_congr (by simp [Site.Reaches, qualified, bound])
    · next free =>
      rw [markBare_eq]
      exact marking_congr (by simp [Site.Reaches, qualified, free])

theorem expandStar_eq (model : Model) (chain : ScopeChain) (table : String) (span : Span)
    (modifiers : List StarModifier) :
    model.expandStar chain table span modifiers =
      (model.marking ((Site.star chain table (excepted modifiers) (replaced modifiers)).Reaches
          model.definitions),
        model.passedOn chain table span modifiers) := by
  simp only [expandStar, Prod.mk.injEq]
  constructor
  · rw [foldl_marking _ (fun _ key => key ∉ excepted modifiers ∧ key ∉ replaced modifiers)]
    · rfl
    · intro model id
      exact markWhere_eq model id _ (fun key => key ∉ excepted modifiers ∧ key ∉ replaced modifiers)
        (by simp)
  · simp only [passedOn, List.contains_eq_mem, decide_not]

theorem passedOn_marking (model : Model) (reached : Nat → String → Prop) (chain : ScopeChain)
    (table : String) (span : Span) (modifiers : List StarModifier) :
    (model.marking reached).passedOn chain table span modifiers =
      model.passedOn chain table span modifiers := by
  simp only [passedOn, columns_marking, List.filter_map, List.map_map, Function.comp_def,
    Column.key_marking]
  rfl

end Model

/-! ### Violations with their definitions -/

def Definition.numberedViolations (id : Nat) (definition : Definition) : List (Nat × Violation) :=
  (definition.columns.filter Column.violates).map fun column =>
    (id, ⟨definition.name, column.name, column.span⟩)

/-- The columns to report, by definition and then in the order of the columns, each with the number of
its definition. -/
def Model.numberedViolations (model : Model) : List (Nat × Violation) :=
  (model.definitions.mapIdx Definition.numberedViolations).flatten

theorem Model.map_snd_numberedViolations (model : Model) :
    model.numberedViolations.map Prod.snd = model.violations := by
  unfold numberedViolations violations
  rw [List.map_flatten, List.flatMap_def]
  congr 1
  apply List.ext_getElem?
  intro id
  simp only [List.getElem?_map, List.getElem?_mapIdx, Option.map_map, Function.comp_def,
    Definition.numberedViolations, List.map_map]

theorem Model.exists_of_mem_numberedViolations {model : Model} {entry : Nat × Violation}
    (member : entry ∈ model.numberedViolations) :
    ∃ definition, model.definitions[entry.1]? = some definition ∧
      ∃ column ∈ definition.columns, column.violates = true := by
  obtain ⟨own, place, member⟩ := List.mem_flatten.1 member
  obtain ⟨id, existing, rfl⟩ := List.mem_mapIdx.1 place
  obtain ⟨column, selected, rfl⟩ := List.mem_map.1 member
  obtain ⟨column_mem, violates⟩ := List.mem_filter.1 selected
  exact ⟨_, List.getElem?_eq_getElem existing, column, column_mem, violates⟩

theorem Column.violates_marking (column : Column) (reached : String → Prop) :
    (column.marking reached).violates = (column.violates && !decide (reached column.key)) := by
  by_cases read : reached column.key <;> simp [marking, violates, reportable, read]

theorem Definition.numberedViolations_marking (id : Nat) (definition : Definition)
    (reached : String → Prop) :
    (definition.marking reached).numberedViolations id =
      (definition.numberedViolations id).filter fun entry =>
        ¬reached (Text.fold entry.2.column) := by
  unfold numberedViolations marking
  rw [List.filter_map, List.map_map, List.filter_map, List.filter_filter]
  simp only [Function.comp_def, Column.violates_marking]
  congr 1
  apply List.filter_congr
  intro column _
  rw [Bool.and_comm, decide_not]
  rfl

/-- Marking takes out the violations that it reaches and leaves the others as they are. -/
theorem Model.numberedViolations_marking (model : Model) (reached : Nat → String → Prop) :
    (model.marking reached).numberedViolations = model.numberedViolations.filter
      fun entry => ¬reached entry.1 (Text.fold entry.2.column) := by
  unfold numberedViolations marking
  rw [List.filter_flatten]
  congr 1
  apply List.ext_getElem?
  intro id
  simp only [List.getElem?_map, List.getElem?_mapIdx, Option.map_map, Function.comp_def,
    Definition.numberedViolations_marking]
  cases model.definitions[id]? with
  | none => rfl
  | some definition =>
    simp only [Option.map_some, Option.some.injEq]
    apply List.filter_congr
    intro entry member
    obtain ⟨column, _, rfl⟩ := List.mem_map.1 member
    rfl

end QueryLint.Usage
