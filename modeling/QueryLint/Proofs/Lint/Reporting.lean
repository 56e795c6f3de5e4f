import QueryLint.Lint.Rules.UnusedColumn
import QueryLint.Proofs.Usage.UnusedColumn

/-!
What the rule makes of the analysis. The analysis covers every named query of a statement, however
deep inside the statement it is written. The rule looks at the outermost query first and leaves if
that query has no definitions of its own, so the findings about queries that are named further
inside are lost with it.
-/

namespace QueryLint.UnusedColumn

open QueryLint.Usage

/-- A column of a definition of the statement that has a name of its own and that no place of the
statement reaches. -/
structure Unread (query : Query) (id : Nat) (definition : Definition) (column : Column) : Prop where
  made : (Outline.ofQuery query).definitions[id]? = some definition
  selected : column ∈ definition.columns
  reportable : column.reportable = true
  unreached : ∀ site ∈ (Outline.ofQuery query).sites,
    ¬site.Reaches (Outline.ofQuery query).definitions id column.key

/-- The findings that the analysis asks for: its violations in their order, less the columns whose
folded names are those of names to ignore. -/
def reports (names : List String) (query : Query) : List Finding :=
  ((analyze query).filter fun violation =>
    !(names.map Text.fold).contains (Text.fold violation.column)).map
      fun violation => ⟨violation.message, violation.span⟩

theorem violates_marking (column : Column) (unused : column.used = false) (reached : String → Prop) :
    (column.marking reached).violates = true ↔
      column.reportable = true ∧ ¬reached column.key := by
  have same : (column.marking reached).reportable = column.reportable := rfl
  rw [Column.violates, Bool.and_eq_true, Bool.not_eq_true', Bool.eq_false_iff, ne_eq,
    Column.used_marking, same, unused]
  simp only [Bool.false_eq_true, false_or]
  exact and_comm

/-- The analysis reports exactly the columns that nothing reads. -/
theorem mem_analyze_iff (query : Query) (violation : Violation) :
    violation ∈ analyze query ↔ ∃ id definition column, Unread query id definition column ∧
      violation = ⟨definition.name, column.name, column.span⟩ := by
  have reads := collect_reads query
  have unused : ∀ definition ∈ (Outline.ofQuery query).definitions, ∀ column ∈ definition.columns,
      column.used = false := reads.unused
  simp only [analyze, Model.violations, List.mem_flatMap, List.mem_map, List.mem_filter]
  rw [reads.marked]
  simp only [Model.marking, Outline.model, List.mem_mapIdx]
  constructor
  · rintro ⟨_, ⟨id, existing, rfl⟩, column, ⟨member, violates⟩, rfl⟩
    obtain ⟨source, selected, rfl⟩ := List.mem_map.1 member
    rw [violates_marking source (unused _ (List.getElem_mem existing) source selected)] at violates
    refine ⟨id, _, source, ⟨List.getElem?_eq_getElem existing, selected, violates.1, ?_⟩, rfl⟩
    intro site place reached
    exact violates.2 ⟨site, place, reached⟩
  · rintro ⟨id, definition, column, unread, rfl⟩
    obtain ⟨existing, rfl⟩ := List.getElem?_eq_some_iff.1 unread.made
    refine ⟨_, ⟨id, existing, rfl⟩, column.marking _,
      ⟨List.mem_map_of_mem unread.selected, ?_⟩, rfl⟩
    rw [violates_marking column (unused _ (List.getElem_mem existing) column unread.selected)]
    refine ⟨unread.reportable, ?_⟩
    rintro ⟨site, place, reached⟩
    exact unread.unreached site place reached

theorem mem_reports_iff (names : List String) (query : Query) (finding : Finding) :
    finding ∈ reports names query ↔ ∃ id definition column, Unread query id definition column ∧
      Text.fold column.name ∉ names.map Text.fold ∧
      finding = ⟨"Unused column: " ++ column.name, column.span⟩ := by
  simp only [reports, List.mem_map, List.mem_filter, mem_analyze_iff]
  constructor
  · rintro ⟨_, ⟨⟨id, definition, column, unread, rfl⟩, kept⟩, rfl⟩
    exact ⟨id, definition, column, unread, by simpa using kept, rfl⟩
  · rintro ⟨id, definition, column, unread, kept, rfl⟩
    exact ⟨_, ⟨⟨id, definition, column, unread, rfl⟩, by simpa using kept⟩, rfl⟩

theorem reports_plain {query : Query} (plain : Plain (.query query)) (names : List String) :
    reports names query = [] := by
  have nothing : (Outline.ofQuery query).definitions = [] := by
    rw [Outline.definitions, ofQuery_eq, outlineQuery_made [] true query {} plain, List.map_nil]
  refine List.eq_nil_iff_forall_not_mem.2 fun finding member => ?_
  obtain ⟨id, definition, column, unread, -⟩ := (mem_reports_iff names query finding).1 member
  simpa [nothing] using unread.made

theorem reports_eq_nil_iff (names : List String) (query : Query) :
    reports names query = [] ↔
      ∀ violation ∈ analyze query, Text.fold violation.column ∈ names.map Text.fold := by
  simp [reports]

theorem ignored_texts (names : List String) :
    ignored [("ignore_columns", .list (names.map .text))] = names := by
  have texts : (names.map Setting.text).mapM (Setting.toText? "") = some names := by
    induction names with
    | nil => rfl
    | cons name rest ih => simp [Setting.toText?, ih]
  simp [ignored, Settings.decode?, Settings.take, Settings.keyOf?, Settings.finish, texts,
    Setting.toTexts?]

/-- The rule reports what the analysis asks for, provided that the statement begins with
definitions. A statement that does not gets no finding at all, which is the same thing only if it
names no query further inside or everything that the analysis finds there is ignored. -/
theorem check_follows_analysis (query : Query) (dialect : Option Dialect) (settings : Settings) :
    check query dialect settings =
      (if query.definitions.isSome then reports (ignored settings) query else []) ∧
    (check query dialect settings = reports (ignored settings) query ↔
      query.definitions.isSome ∨ ∀ violation ∈ analyze query,
        Text.fold violation.column ∈ (ignored settings).map Text.fold) ∧
    (Plain (.query query) → check query dialect settings = reports (ignored settings) query) ∧
    ∀ finding, finding ∈ reports (ignored settings) query ↔
      ∃ id definition column, Unread query id definition column ∧
        Text.fold column.name ∉ (ignored settings).map Text.fold ∧
        finding = ⟨"Unused column: " ++ column.name, column.span⟩ := by
  have reported : check query dialect settings =
      if query.definitions.isSome then reports (ignored settings) query else [] := by
    cases present : query.definitions <;> simp [check, reports, present]
  refine ⟨reported, ?_, ?_, mem_reports_iff (ignored settings) query⟩
  · rw [reported, ← reports_eq_nil_iff]
    cases present : query.definitions.isSome
    · rw [if_neg Bool.false_ne_true, eq_comm]
      simp
    · simp
  · intro plain
    rw [reported, reports_plain plain, ite_self]

/-- `SELECT * FROM (WITH t AS (SELECT a AS x, b AS y FROM s) SELECT x FROM t)`. -/
def derivedQuery : Query :=
  let item (name aliasName : String) : SelectItem := .expr {} (.column { column := name }) aliasName {}
  let alone (definitions : Option WithClause) (block : SelectBlock) : Query :=
    ⟨{}, definitions, .single {} (.block block)⟩
  let named := alone none (simpleBlock [item "a" "x", item "b" "y"] "s")
  let inner := alone (some ⟨{}, false, [⟨{}, "t", {}, [], some named⟩]⟩)
    (simpleBlock [item "x" ""] "t")
  alone none { simpleBlock [.star {} []] "" with source := some ⟨{}, .derived {} inner "", []⟩ }

/-- The analysis finds `y`, the rule does not report it, and the two agree once `Y` is ignored. -/
theorem derivedQuery_unreported :
    analyze derivedQuery = [⟨"t", "y", {}⟩] ∧ check derivedQuery none [] = [] ∧
    check derivedQuery none [] ≠ reports (ignored []) derivedQuery ∧
    check derivedQuery none [("ignore_columns", .list [.text "Y"])] =
      reports (ignored [("ignore_columns", .list [.text "Y"])]) derivedQuery := by
  have found : analyze derivedQuery = [⟨"t", "y", {}⟩] := by cbv
  refine ⟨found, (check_follows_analysis derivedQuery none []).1, fun same => ?_, ?_⟩
  · rcases (check_follows_analysis derivedQuery none []).2.1.1 same with present | kept
    · exact absurd present (by decide)
    · rw [found] at kept
      exact absurd (kept _ (List.mem_singleton_self _)) (by decide)
  · apply (check_follows_analysis derivedQuery none _).2.1.2
    right
    have names : ignored [("ignore_columns", .list [.text "Y"])] = ["Y"] := ignored_texts ["Y"]
    rw [found, names]
    decide

end QueryLint.UnusedColumn
