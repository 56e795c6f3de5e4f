import QueryLint.Parser.Name
import QueryLint.Proofs.Usage.Reading

/-!
Stars behind a path. A reference is resolved segment by segment: the first one may be an alias or
else a column with fields. A star behind the same path looks the whole path up as if it were one
alias. So it reads nothing from a column with fields, although the path alone would.
-/

namespace QueryLint.Usage

/-- Every column that something reads in the second model is read in the first one, place by
place. -/
def Model.ReadsAtLeast (more fewer : Model) : Prop :=
  ∀ (id place : Nat) (column : Column), (fewer.columns id)[place]? = some column →
    column.used = true → ∃ other : Column, (more.columns id)[place]? = some other ∧ other.used = true

theorem Model.readsAtLeast_marking (model : Model) (more fewer : Nat → String → Prop) :
    (model.marking more).ReadsAtLeast (model.marking fewer) ↔
      ∀ id, ∀ column ∈ model.columns id, fewer id column.key →
        column.used = true ∨ more id column.key := by
  simp only [ReadsAtLeast, columns_marking, List.getElem?_map, Option.map_eq_some_iff]
  constructor
  · intro atLeast id column member reached
    obtain ⟨place, found⟩ := List.getElem?_of_mem member
    obtain ⟨_, ⟨source, same, rfl⟩, used⟩ := atLeast id place (column.marking (fewer id))
      ⟨column, found, rfl⟩ ((Column.used_marking column (fewer id)).2 (.inr reached))
    obtain rfl : column = source := Option.some.inj (found.symm.trans same)
    exact (Column.used_marking column (more id)).1 used
  · rintro implied id place _ ⟨column, found, rfl⟩ used
    refine ⟨column.marking (more id), ⟨column, found, rfl⟩, (Column.used_marking column _).2 ?_⟩
    rcases (Column.used_marking column (fewer id)).1 used with already | reached
    · exact .inl already
    · exact implied id column (List.mem_of_getElem? found) reached

section PathStar

variable {chain : ScopeChain} {table : String}

theorem mem_starSources_iff (named : table.isEmpty = false) (id : Nat) :
    id ∈ Model.starSources chain table ↔ chain.resolve table = some (some id) := by
  rw [Model.starSources, named, if_neg Bool.false_ne_true, Option.mem_toList, Option.bind_eq_some_iff]
  simp

theorem expandStar_unbound (named : table.isEmpty = false)
    (unbound : ∀ id, chain.resolve table ≠ some (some id)) (model : Model) (span : Span)
    (modifiers : List StarModifier) :
    model.expandStar chain table span modifiers = (model, []) := by
  have none : Model.starSources chain table = [] :=
    List.eq_nil_iff_forall_not_mem.2 fun id member =>
      unbound id ((mem_starSources_iff named id).1 member)
  simp [Model.expandStar, none]

end PathStar

/-- A star behind a path reads at least what the path reads if and only if every column that the
path reaches is read already or belongs to the definition that the whole path, taken for one alias,
stands for, where the modifiers of the star do not leave it out. If the path as a whole is no alias of
a definition, the star changes nothing. -/
theorem pathStar_reads_iff (model : Model) (chain : ScopeChain) (path : List PathSegment)
    (pathSpan span : Span) (modifiers : List StarModifier)
    (named : (PathSegment.join path).isEmpty = false) :
    ((model.expandStar chain (PathSegment.join path) span modifiers).1.ReadsAtLeast
        (model.markRef chain (PathSegment.columnRef path pathSpan)) ↔
      ∀ id, ∀ column ∈ model.columns id,
        (Site.reference chain (PathSegment.columnRef path pathSpan)).Reaches model.definitions id
          column.key →
        column.used = true ∨ chain.resolve (PathSegment.join path) = some (some id) ∧
          column.key ∉ Model.excepted modifiers ∧ column.key ∉ Model.replaced modifiers) ∧
    ((∀ id, chain.resolve (PathSegment.join path) ≠ some (some id)) →
      model.expandStar chain (PathSegment.join path) span modifiers = (model, []) ∧
      itemColumns chain [.tableStar span (PathSegment.join path) []] 0 model = (model, [])) := by
  constructor
  · rw [Model.expandStar_eq, Model.markRef_eq, Model.readsAtLeast_marking]
    simp only [Site.Reaches, mem_starSources_iff named]
  · intro unbound
    refine ⟨expandStar_unbound named unbound model span modifiers, ?_⟩
    simp [itemColumns, starColumns, foldl_attach_mark, expandStar_unbound named unbound]

def structureModel : Model where
  definitions := [{ name := "t", columns := [{ name := "s" }] }]
  latest := [("t", 0)]

/-- Where `t` is bound, `t.s` reads the column and `t.s.*` does not. -/
theorem structure_star_reads_nothing :
    let chain : ScopeChain := [[⟨"t", some 0⟩]]
    let path : List PathSegment := [⟨"t", false, {}⟩, ⟨"s", false, {}⟩]
    (structureModel.markRef chain (PathSegment.columnRef path {})).columns 0 =
        [{ name := "s", used := true }] ∧
    itemColumns chain [.tableStar {} (PathSegment.join path) []] 0 structureModel =
      (structureModel, []) ∧
    ¬(structureModel.expandStar chain (PathSegment.join path) {} []).1.ReadsAtLeast
        (structureModel.markRef chain (PathSegment.columnRef path {})) := by
  intro chain path
  have unbound : ∀ id, chain.resolve (PathSegment.join path) ≠ some (some id) := by
    have absent : chain.resolve (PathSegment.join path) = none := by decide
    simp [absent]
  have reads := pathStar_reads_iff structureModel chain path {} {} [] (by decide)
  have reached : (Site.reference chain (PathSegment.columnRef path {})).Reaches
      structureModel.definitions 0 (Column.key { name := "s" }) := by
    have qualifier : chain.resolve "t" = some (some 0) := by decide
    simp [Site.Reaches, PathSegment.columnRef, path, qualifier]
    decide
  refine ⟨by decide, (reads.2 unbound).2, fun atLeast => ?_⟩
  rcases reads.1.1 atLeast 0 { name := "s" } (by decide) reached with used | ⟨bound, -⟩
  · exact absurd used (by decide)
  · exact unbound 0 bound

end QueryLint.Usage
