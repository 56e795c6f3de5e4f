import QueryLint.Proofs.Usage.Soundness

/-!
What a star does to the columns of its sources. `EXCEPT` takes a column from the output, `REPLACE`
keeps it there under another value; the star itself reads neither. All other columns of its sources
are passed on and marked, in the order in which the scope binds the sources.
-/

namespace QueryLint.Usage

def Excepts (modifiers : List StarModifier) (key : String) : Prop :=
  ∃ columns, .except columns ∈ modifiers ∧ ∃ name ∈ columns, Text.fold name = key

def Replaces (modifiers : List StarModifier) (key : String) : Prop :=
  ∃ items, .replace items ∈ modifiers ∧ ∃ item ∈ items, Text.fold item.name = key

theorem mem_excepted_iff {modifiers : List StarModifier} {key : String} :
    key ∈ Model.excepted modifiers ↔ Excepts modifiers key := by
  simp only [Model.excepted, List.mem_flatMap, Excepts]
  constructor
  · rintro ⟨columns | items, member, named⟩
    · exact ⟨columns, member, List.mem_map.1 named⟩
    · cases named
  · rintro ⟨columns, member, named⟩
    exact ⟨.except columns, member, List.mem_map.2 named⟩

theorem mem_replaced_iff {modifiers : List StarModifier} {key : String} :
    key ∈ Model.replaced modifiers ↔ Replaces modifiers key := by
  simp only [Model.replaced, List.mem_flatMap, Replaces]
  constructor
  · rintro ⟨columns | items, member, named⟩
    · cases named
    · exact ⟨items, member, List.mem_map.1 named⟩
  · rintro ⟨items, member, named⟩
    exact ⟨.replace items, member, List.mem_map.2 named⟩

instance (modifiers : List StarModifier) (key : String) : Decidable (Excepts modifiers key) :=
  decidable_of_iff _ mem_excepted_iff

instance (modifiers : List StarModifier) (key : String) : Decidable (Replaces modifiers key) :=
  decidable_of_iff _ mem_replaced_iff

theorem foldl_mark_continues (chain : ScopeChain) (nodes : List Node) (model : Model) :
    model.Continues (nodes.foldl (fun model node => mark chain node model) model) := by
  have visited := run_nodes chain [] [] [] nodes
    (fun node _ model => run_nodeActions chain [] node model [] []) model
  have kept := (⟨model, [chain], [], []⟩ : Progress).continues_run (nodes.flatMap nodeActions)
  rwa [visited] at kept

/-- The expressions of `REPLACE` are visited first, which keeps all definitions. Then exactly those
columns of the sources are marked that no `EXCEPT` and no `REPLACE` names. The output has, source by
source as they are bound and column by column, each one that no `EXCEPT` names; such a column is
marked afterwards unless a `REPLACE` names it. -/
theorem star_marks_kept (chain : ScopeChain) (table : String) (span : Span)
    (modifiers : List StarModifier) (model : Model) :
    let visited := (modifiers.flatMap StarModifier.nodes).foldl
      (fun model node => mark chain node model) model
    let (after, columns) := starColumns chain table span modifiers model
    model.Continues visited ∧
    after = visited.marking (fun id key => id ∈ Model.starSources chain table ∧
      ¬Excepts modifiers key ∧ ¬Replaces modifiers key) ∧
    (columns = (Model.starSources chain table).flatMap fun id =>
      ((after.columns id).filter fun column => ¬Excepts modifiers column.key).map fun column =>
        { name := column.name, span, mirrored := true }) ∧
    ∀ id ∈ Model.starSources chain table, ∀ column ∈ after.columns id,
      ¬Excepts modifiers column.key → ¬Replaces modifiers column.key → column.used = true := by
  intro visited
  have marked : (starColumns chain table span modifiers model).1 =
      visited.marking (fun id key => id ∈ Model.starSources chain table ∧
        ¬Excepts modifiers key ∧ ¬Replaces modifiers key) := by
    rw [starColumns, foldl_attach_mark, Model.expandStar_eq]
    exact Model.marking_congr (by simp [Site.Reaches, mem_excepted_iff, mem_replaced_iff])
  have shown : (starColumns chain table span modifiers model).2 =
      visited.passedOn chain table span modifiers := by
    rw [starColumns, foldl_attach_mark, Model.expandStar_eq]
  refine ⟨foldl_mark_continues chain _ model, marked, ?_, ?_⟩
  · rw [shown, marked, ← Model.passedOn_marking visited (fun id key =>
      id ∈ Model.starSources chain table ∧ ¬Excepts modifiers key ∧ ¬Replaces modifiers key)]
    simp only [Model.passedOn, mem_excepted_iff]
  · rw [marked]
    intro id source column member kept given
    rw [Model.columns_marking] at member
    obtain ⟨before, _, rfl⟩ := List.mem_map.1 member
    exact (Column.used_marking before _).2 (.inr ⟨source, kept, given⟩)

/-- Where `s` has the columns `a` and `b`, `* REPLACE (3 AS a)` passes `a` on and leaves it unread. -/
theorem replaced_column_unread :
    let model : Model := ⟨[{ name := "s", columns := [{ name := "a" }, { name := "b" }] }], [("s", 0)]⟩
    let chain : ScopeChain := [[⟨"s", some 0⟩]]
    let modifiers : List StarModifier :=
      [.replace [⟨.literal { kind := .number, value := "3" }, "a"⟩]]
    let (after, columns) := starColumns chain "" {} modifiers model
    columns.map Column.name = ["a", "b"] ∧
    after.columns 0 = [{ name := "a" }, { name := "b", used := true }] ∧
    ¬∀ id ∈ Model.starSources chain "", ∀ column ∈ after.columns id,
      ¬Excepts modifiers column.key → column.used = true := by
  intro model chain modifiers
  have unread : (starColumns chain "" {} modifiers model).1.columns 0 =
      [{ name := "a" }, { name := "b", used := true }] := by cbv
  refine ⟨by cbv, unread, fun marked => ?_⟩
  have read := marked 0 (by decide) { name := "a" } (by rw [unread]; decide) (by decide)
  exact absurd read (by decide)

end QueryLint.Usage
