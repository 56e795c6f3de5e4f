import QueryLint.Proofs.Usage.PathStar

/-!
Sources that are paths into earlier sources, as in `FROM t, t.arr`. With two segments the first one is
looked up as an alias and the second one is a column that is read. A longer path has a project and is
taken for a table outside of the statement, also if its first segment is an alias; the same path as an
argument of `UNNEST` reads the column.
-/

namespace QueryLint

namespace PathSegment

theorem intercalate_ne_empty {first : String} (named : first.isEmpty = false) (rest : List String) :
    (".".intercalate (first :: rest)).isEmpty = false := by
  have nonempty : first ≠ "" := fun empty => by simp [empty] at named
  rw [Bool.eq_false_iff, ne_eq, String.isEmpty_iff]
  cases rest with
  | nil => rwa [String.intercalate_singleton]
  | cons second rest =>
    intro empty
    rw [String.intercalate_cons_cons, String.append_assoc, String.append_eq_empty_iff] at empty
    exact nonempty empty.1

theorem tableName_pair (first second : PathSegment) :
    tableName [first, second] = { dataset := first.name, name := second.name } := rfl

theorem project_tableName {first : PathSegment} (named : first.name.isEmpty = false)
    (second third : PathSegment) (rest : List PathSegment) :
    (tableName (first :: second :: third :: rest)).project.isEmpty = false := by
  unfold tableName
  rw [List.map_cons, List.reverse_cons]
  cases split : (List.map (·.name) (second :: third :: rest)).reverse with
  | nil => simp at split
  | cons name others =>
    cases others with
    | nil => simpa using congrArg List.length split
    | cons dataset project =>
      simp only [List.cons_append, List.reverse_append, List.reverse_singleton]
      exact intercalate_ne_empty named _

end PathSegment

namespace Usage

section Bound

variable {chain : ScopeChain} {scope : Scope} {first : PathSegment} {id : Nat}

theorem mark_argument (head : CallHead) (ref : ColumnRef) (model : Model) :
    mark chain (.expr (.call head [.column ref] [] none none)) model = model.markRef chain ref := by
  have argument : Node.children (.expr (.call head [.column ref] [] none none)) =
      [.expr (.column ref)] := rfl
  rw [mark_children (by simp) (by simp) (by simp), argument, List.foldl_cons, List.foldl_nil, mark]

theorem markRef_path (named : first.name.isEmpty = false)
    (bound : chain.resolve first.name = some (some id)) (second : PathSegment)
    (rest : List PathSegment) (span : Span) (model : Model) :
    model.markRef chain (PathSegment.columnRef (first :: second :: rest) span) =
      model.markKey (Text.fold second.name) id := by
  simp [Model.markRef, PathSegment.columnRef, named, bound]

theorem bindSource_pair (named : first.name.isEmpty = false)
    (bound : ScopeChain.resolve (scope :: chain) first.name = some (some id)) (second : PathSegment)
    (span : Span) (aliasName : String) (aliasSpan : Span) (model : Model) :
    let table := { PathSegment.tableName [first, second] with span, aliasName, aliasSpan }
    bindSource chain scope (.table table) model =
      (model.markKey (Text.fold second.name) id, scope.bind table.exposedName none) := by
  simp [bindSource, PathSegment.tableName_pair, Model.markRef, named, bound]

theorem bindSource_project {table : TableName} (project : table.project.isEmpty = false)
    (model : Model) :
    bindSource chain scope (.table table) model = (model, scope.bind table.exposedName none) := by
  simp [bindSource, project]

end Bound

theorem Model.readsAtLeast_markKey (model : Model) (key : String) (id : Nat) :
    model.ReadsAtLeast (model.markKey key id) ↔
      ∀ column ∈ model.columns id, column.key = key → column.used = true := by
  have compared := model.readsAtLeast_marking (fun _ _ => False) fun other name =>
    other = id ∧ name = key
  rw [Model.marking_none, ← Model.markKey_eq] at compared
  rw [compared]
  simp only [or_false, and_imp]
  constructor
  · exact fun read column member named => read id column member rfl named
  · rintro read other column member rfl named
    exact read column member named

/-- A source that is a path into an earlier source is bound as a source whose columns are not known,
whatever its length. As an argument of a function the path reads the columns that its second segment
names. As a source it reads as much if it has two segments, and nothing if it is longer, in which case
columns that nothing else reads are reported. -/
theorem sourcePath_reads_iff (model : Model) (chain : ScopeChain) (scope : Scope)
    (first second : PathSegment) (rest : List PathSegment) (id : Nat)
    (named : first.name.isEmpty = false)
    (bound : ScopeChain.resolve (scope :: chain) first.name = some (some id)) (head : CallHead) (span : Span)
    (aliasName : String) (aliasSpan : Span) :
    let path := first :: second :: rest
    let table := { PathSegment.tableName path with span, aliasName, aliasSpan }
    let call := .call head [.column (PathSegment.columnRef path span)] [] none none
    let visited := (bindSource chain scope (.table table) model).1
    let unnested := (bindSource chain scope (.function span call aliasName false "") model).1
    (bindSource chain scope (.table table) model).2 = scope.bind table.exposedName none ∧
    unnested = model.markKey (Text.fold second.name) id ∧
    visited = (if rest = [] then unnested else model) ∧
    (visited.ReadsAtLeast unnested ↔ rest = [] ∨
      ∀ column ∈ model.columns id, column.key = Text.fold second.name → column.used = true) := by
  intro path table call visited unnested
  have argument : unnested = model.markKey (Text.fold second.name) id := by
    simp only [unnested, call, bindSource, mark_argument]
    exact markRef_path named bound second rest span model
  cases rest with
  | nil =>
    have pair := bindSource_pair named bound second span aliasName aliasSpan model
    have source : visited = unnested := (congrArg Prod.fst pair).trans argument.symm
    refine ⟨congrArg Prod.snd pair, argument, source, ?_⟩
    rw [source]
    exact iff_of_true (fun _ _ column found used => ⟨column, found, used⟩) (.inl rfl)
  | cons third rest =>
    have project : table.project.isEmpty = false :=
      PathSegment.project_tableName named second third rest
    have ignored : bindSource chain scope (.table table) model =
        (model, scope.bind table.exposedName none) := bindSource_project project model
    have source : visited = model := congrArg Prod.fst ignored
    refine ⟨congrArg Prod.snd ignored, argument, source, ?_⟩
    rw [source, argument, Model.readsAtLeast_markKey]
    simp only [List.cons_ne_nil, false_or]

/-- Where `t` is bound, `t.s` as a source reads the column `s`, and `t.s.arr` does not. -/
theorem structure_path_reads_nothing :
    let segment (name : String) : PathSegment := ⟨name, false, {}⟩
    let chain : ScopeChain := []
    let scope : Scope := [⟨"t", some 0⟩]
    let source (path : List PathSegment) : TableRef := .table (PathSegment.tableName path)
    (bindSource chain scope (source [segment "t", segment "s"]) structureModel).1.columns 0 =
        [{ name := "s", used := true }] ∧
    (bindSource chain scope (source [segment "t", segment "s", segment "arr"]) structureModel).1 =
      structureModel ∧
    structureModel.columns 0 = [{ name := "s" }] := by
  intro segment chain scope source
  have bound : ScopeChain.resolve (scope :: chain) "t" = some (some 0) := by decide
  have path (rest : List PathSegment) := sourcePath_reads_iff structureModel chain scope (segment "t")
    (segment "s") rest 0 (by decide) bound { name := "UNNEST" } {} "" {}
  obtain ⟨-, unnested, short, -⟩ := path []
  obtain ⟨-, -, long, -⟩ := path [segment "arr"]
  refine ⟨?_, long, by decide⟩
  rw [unnested] at short
  exact (congrArg (Model.columns · 0) short).trans (by decide)

end Usage

end QueryLint
