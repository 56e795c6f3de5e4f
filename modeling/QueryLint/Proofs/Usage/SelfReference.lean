import QueryLint.Proofs.Usage.UnusedColumn

/-!
Named queries do not see themselves. A definition is made after the query that it names has been
visited, whether or not its list is marked as recursive. Inside that query its name stands for an
earlier definition or for a source whose columns are not known, so no place of the query reaches one
of its own columns.
-/

namespace QueryLint.Usage

/-! ### What is known inside a named query -/

/-- Every name refers to a definition and no column is marked. -/
structure Model.Fresh (known : Model) : Prop where
  named : known.Named
  unused : ∀ definition ∈ known.definitions, ∀ column ∈ definition.columns, column.used = false

namespace Model.Fresh

variable {known : Model}

theorem empty : ({} : Model).Fresh where
  named := List.forall_mem_nil _
  unused := List.forall_mem_nil _

theorem reads (fresh : known.Fresh) : Reads known [] known where
  marked := by simpa using (Model.marking_none known).symm
  within := List.forall_mem_nil _
  named := fresh.named
  unused := fresh.unused

theorem after (fresh : known.Fresh) {outline : Outline}
    (unused : ∀ definition ∈ outline.definitions, ∀ column ∈ definition.columns,
      column.used = false) : (known.after outline).Fresh where
  named := fresh.named.after outline
  unused := by
    intro definition member
    rcases List.mem_append.1 member with earlier | made
    · exact fresh.unused definition earlier
    · exact unused definition made

theorem register (fresh : known.Fresh) (definition : Definition)
    (unused : ∀ column ∈ definition.columns, column.used = false) :
    (known.register definition).Fresh where
  named := fresh.named.register definition
  unused := by
    intro other member
    rcases List.mem_append.1 member with earlier | same
    · exact fresh.unused other earlier
    · exact List.mem_singleton.1 same ▸ unused

end Model.Fresh

/-- The places of a query, all of which stand before the definition `id` that names it, where
`known` is what the query sees. -/
structure Made.Follows (made : Made) (body : Query) (id : Nat) (sites before after : List Site) :
    Prop where
  sites : sites = before ++ (outlineQuery [] false body made.known).1.sites ++ after
  fresh : made.known.Fresh
  position : (made.known.after (outlineQuery [] false body made.known).1).definitions.length = id

/-- The definitions of an outline are unmarked, and each one comes right after those that its own
query makes. -/
structure Outline.Ordered (count : Nat) (outline : Outline) : Prop where
  unused : ∀ definition ∈ outline.definitions, ∀ column ∈ definition.columns, column.used = false
  follows : ∀ (place : Nat) (made : Made) (body : Query), outline.made[place]? = some made →
    made.cte.query = some body →
    ∃ before after, made.Follows body (count + place) outline.sites before after

namespace Outline.Ordered

variable {count : Nat} {first second : Outline}

theorem readAll (sites : List Site) : (Outline.readAll sites).Ordered count where
  unused := List.forall_mem_nil _
  follows := by simp

theorem empty : ({} : Outline).Ordered count := readAll []

theorem append (ordered : first.Ordered count)
    (further : second.Ordered (count + first.made.length)) : (first ++ second).Ordered count where
  unused := by
    rw [Outline.definitions_append]
    exact List.forall_mem_append.2 ⟨ordered.unused, further.unused⟩
  follows := by
    intro place made body found written
    rw [Outline.made_append] at found
    by_cases early : place < first.made.length
    · rw [List.getElem?_append_left early] at found
      obtain ⟨before, after, follows⟩ := ordered.follows place made body found written
      refine ⟨before, after ++ second.sites, ?_, follows.fresh, follows.position⟩
      simp [follows.sites]
    · have late : first.made.length ≤ place := Nat.le_of_not_lt early
      rw [List.getElem?_append_right late] at found
      obtain ⟨before, after, follows⟩ := further.follows _ made body found written
      refine ⟨first.sites ++ before, after, ?_, follows.fresh, ?_⟩
      · simp [follows.sites]
      · rw [follows.position]
        omega

theorem define (inner : first.Ordered count) (made : Made)
    (unused : ∀ column ∈ made.definition.columns, column.used = false)
    (follows : ∀ body, made.cte.query = some body →
      made.Follows body (count + first.made.length) first.sites [] []) :
    (first ++ { made := [made] }).Ordered count where
  unused := by
    rw [Outline.definitions_append]
    exact List.forall_mem_append.2 ⟨inner.unused, by simpa [Outline.definitions] using unused⟩
  follows := by
    intro place other body found written
    rw [Outline.made_append] at found
    by_cases early : place < first.made.length
    · rw [List.getElem?_append_left early] at found
      obtain ⟨before, after, follows⟩ := inner.follows place other body found written
      exact ⟨before, after, by simpa using follows⟩
    · rw [List.getElem?_append_right (Nat.le_of_not_lt early)] at found
      obtain ⟨last, same⟩ := List.getElem?_eq_some_iff.1 found
      have here : place = first.made.length := by
        simp only [List.length_singleton] at last
        omega
      subst here
      obtain rfl : made = other := by simpa using same
      exact ⟨[], [], by simpa using follows body written⟩

theorem andThen {known : Model} (ordered : first.Ordered known.definitions.length)
    (further : second.Ordered (known.after first).definitions.length) :
    (first ++ second).Ordered known.definitions.length :=
  ordered.append (by simpa [Outline.definitions] using further)

theorem sequence {α : Type} (part : α → Model → Outline) (parts : List α) {known : Model}
    (fresh : known.Fresh)
    (step : ∀ entry ∈ parts, ∀ known : Model, known.Fresh →
      (part entry known).Ordered known.definitions.length) :
    (Outline.sequence part parts known).Ordered known.definitions.length := by
  induction parts generalizing known with
  | nil => exact empty
  | cons entry rest ih =>
    have head := step entry (List.mem_cons_self ..) known fresh
    have tail := ih (fresh.after head.unused) fun entry member =>
      step entry (List.mem_cons_of_mem _ member)
    exact head.andThen tail

end Outline.Ordered

mutual

theorem outlineQuery_ordered (chain : ScopeChain) (final : Bool) (query : Query) (known : Model)
    (fresh : known.Fresh) :
    (outlineQuery chain final query known).1.Ordered known.definitions.length := by
  match query with
  | ⟨_, definitions, body⟩ =>
    obtain ⟨own, inside⟩ := outlineWith_ordered definitions known fresh
    have rest := outlineBody_ordered chain final true body _ inside
    rw [outlineWith_definitions] at rest
    simpa [outlineQuery] using own.append (by simpa [Outline.definitions] using rest)
termination_by (sizeOf query, 0)
decreasing_by all_goals decreasing_with omega

theorem outlineWith_ordered (definitions : Option WithClause) (known : Model) (fresh : known.Fresh) :
    (outlineWith definitions known).1.Ordered known.definitions.length ∧
      (outlineWith definitions known).2.Fresh := by
  match definitions with
  | none => simpa [outlineWith] using ⟨.empty, fresh⟩
  | some ⟨_, _, ctes⟩ => simpa [outlineWith] using outlineCtes_ordered ctes known fresh
termination_by (sizeOf definitions, 0)
decreasing_by all_goals decreasing_with omega

theorem outlineCtes_ordered (ctes : List Cte) (known : Model) (fresh : known.Fresh) :
    (outlineCtes ctes known).1.Ordered known.definitions.length ∧
      (outlineCtes ctes known).2.Fresh := by
  match ctes with
  | [] => simpa [outlineCtes] using ⟨.empty, fresh⟩
  | ⟨span, name, nameSpan, names, none⟩ :: rest =>
    obtain ⟨others, inside⟩ := outlineCtes_ordered rest _
      (fresh.register { name, nameSpan, columns := [] } (List.forall_mem_nil _))
    have nothing : ({} : Outline).Ordered known.definitions.length := .empty
    have single := nothing.define
      ⟨{ name, nameSpan, columns := [] }, ⟨span, name, nameSpan, names, none⟩, known⟩
      (List.forall_mem_nil _) nofun
    refine ⟨?_, by simpa [outlineCtes] using inside⟩
    rw [outlineCtes]
    exact single.append (by simpa [Model.register] using others)
  | ⟨span, name, nameSpan, names, some query⟩ :: rest =>
    have inner := outlineQuery_ordered [] false query known fresh
    have unused := renameColumns_unused (outlineQuery_unused [] false query known) names
    obtain ⟨others, inside⟩ := outlineCtes_ordered rest _
      ((fresh.after inner.unused).register { name, nameSpan, columns := _ } unused)
    have single := inner.define
      ⟨{ name, nameSpan, columns := _ }, ⟨span, name, nameSpan, names, some query⟩, known⟩
      unused (by
        intro body written
        obtain rfl : query = body := Option.some.inj written
        exact ⟨by simp, fresh, by simp [Outline.definitions]⟩)
    refine ⟨?_, by simpa [outlineCtes] using inside⟩
    simpa [outlineCtes] using single.append
      (by simpa [Model.register, Outline.definitions] using others)
termination_by (sizeOf ctes, 0)
decreasing_by all_goals decreasing_with omega

theorem outlineBody_ordered (chain : ScopeChain) (final first : Bool) (body : QueryBody)
    (known : Model) (fresh : known.Fresh) :
    (outlineBody chain final first body known).1.Ordered known.definitions.length := by
  match body with
  | .single _ (.block block) =>
    simpa [outlineBody] using outlineBlock_ordered chain final block known fresh
  | .single _ (.nested query) =>
    simpa [outlineBody] using outlineQuery_ordered chain (final && first) query known fresh
  | .combined _ (.block block) _ _ right =>
    have left := outlineBlock_ordered chain final block known fresh
    have tail := outlineBody_ordered chain final false right _ (fresh.after left.unused)
    simpa [outlineBody] using left.andThen tail
  | .combined _ (.nested query) _ _ right =>
    have left := outlineQuery_ordered chain false query known fresh
    have tail := outlineBody_ordered chain final false right _ (fresh.after left.unused)
    simpa [outlineBody] using left.andThen tail
termination_by (sizeOf body, 0)
decreasing_by all_goals decreasing_with omega

theorem outlineBlock_ordered (chain : ScopeChain) (final : Bool) (block : SelectBlock)
    (known : Model) (fresh : known.Fresh) :
    (outlineBlock chain final block known).1.Ordered known.definitions.length := by
  have sources : (outlineFrom chain block.source known).1.Ordered known.definitions.length := by
    cases found : block.source with
    | none => exact .empty
    | some source => exact outlineSources_ordered chain source known fresh
  have clauses (scope : Scope) := Outline.Ordered.sequence
    (outlineNode (scope :: chain)) (clauseNodes block (final || block.hasLimit))
    (fresh.after sources.unused)
    fun node _ known fresh => outlineNode_ordered (scope :: chain) node known fresh
  have items (scope : Scope) := outlineItems_ordered (scope :: chain) block.items 0 _
    ((fresh.after sources.unused).after (clauses scope).unused)
  rw [outlineBlock_eq]
  exact Outline.Ordered.andThen (sources.andThen (clauses _)) (by simpa using items _)
termination_by (sizeOf block, 0)
decreasing_by
  · exact Prod.Lex.left _ _ (size_lt_of_source_eq_some found)
  · exact Prod.Lex.left _ _ (size_lt_of_mem_clauseNodes ‹_›)
  · exact Prod.Lex.left _ _ (size_items_lt block)

theorem outlineSources_ordered (chain : ScopeChain) (source : FromClause) (known : Model)
    (fresh : known.Fresh) :
    (outlineSources chain source known).1.Ordered known.definitions.length := by
  match source with
  | ⟨_, first, joins⟩ =>
    have head := outlineSource_ordered chain [] first known fresh
    have tail := outlineJoins_ordered chain (outlineSource chain [] first known).2 joins _
      (fresh.after head.unused)
    simpa [outlineSources] using head.andThen tail
termination_by (sizeOf source, 0)
decreasing_by all_goals decreasing_with omega

theorem outlineJoins_ordered (chain : ScopeChain) (scope : Scope) (joins : List Join)
    (known : Model) (fresh : known.Fresh) :
    (outlineJoins chain scope joins known).1.Ordered known.definitions.length := by
  match joins with
  | [] => simpa [outlineJoins] using .empty
  | ⟨span, kind, natural, right, condition, columns⟩ :: rest =>
    have source := outlineSource_ordered chain scope right known fresh
    have conditions := Outline.Ordered.sequence
      (outlineNode ((outlineSource chain scope right known).2 :: chain))
      (optionNodes condition ++ columnNodes columns) (fresh.after source.unused)
      fun node _ known fresh => outlineNode_ordered _ node known fresh
    have others := outlineJoins_ordered chain (outlineSource chain scope right known).2 rest _
      ((fresh.after source.unused).after conditions.unused)
    rw [outlineJoins_cons]
    exact (source.andThen conditions).andThen (by simpa using others)
termination_by (sizeOf joins, 0)
decreasing_by
  · apply Prod.Lex.left
    simp only [List.cons.sizeOf_spec, Join.mk.sizeOf_spec]
    omega
  · have smaller := size_lt_of_mem_joinNodes ‹_›
    apply Prod.Lex.left
    simp only [List.cons.sizeOf_spec, Join.mk.sizeOf_spec]
    omega
  · apply Prod.Lex.left
    simp only [List.cons.sizeOf_spec, Join.mk.sizeOf_spec]
    omega

theorem outlineSource_ordered (chain : ScopeChain) (scope : Scope) (source : TableRef)
    (known : Model) (fresh : known.Fresh) :
    (outlineSource chain scope source known).1.Ordered known.definitions.length := by
  match source with
  | .missing => simpa [outlineSource] using .empty
  | .table table =>
    simp only [outlineSource]
    split
    · exact .empty
    · split
      · exact .readAll _
      · exact .empty
  | .derived span query aliasName =>
    simpa [outlineSource] using outlineQuery_ordered (scope :: chain) false query known fresh
  | .function span call aliasName withOffset offsetAlias =>
    simpa [outlineSource] using outlineNode_ordered (scope :: chain) (.expr call) known fresh
  | .pivot span inner aggregates forColumn values aliasName =>
    have source := outlineSource_ordered (scope :: chain) [] inner known fresh
    have columns (own : Scope) := Outline.Ordered.sequence
      (outlineNode (own :: scope :: chain))
      (pivotNodes aggregates forColumn values) (fresh.after source.unused)
      fun node _ known fresh => outlineNode_ordered _ node known fresh
    rw [outlineSource_pivot]
    exact (source.andThen (columns _)).andThen (.readAll _)
  | .unpivot span inner valueColumns nameColumn groups aliasName =>
    have source := outlineSource_ordered (scope :: chain) [] inner known fresh
    rw [outlineSource]
    exact (source.andThen (.readAll _)).andThen (.readAll _)
termination_by (sizeOf source, 0)
decreasing_by
  · apply Prod.Lex.left
    simp only [TableRef.derived.sizeOf_spec]
    omega
  · apply Prod.Lex.left
    simp only [Node.size, TableRef.function.sizeOf_spec]
    omega
  · apply Prod.Lex.left
    simp only [TableRef.pivot.sizeOf_spec]
    omega
  · exact Prod.Lex.left _ _ (size_lt_of_mem_pivotNodes ‹_›)
  · apply Prod.Lex.left
    simp only [TableRef.unpivot.sizeOf_spec]
    omega

theorem outlineNode_ordered (chain : ScopeChain) (node : Node) (known : Model) (fresh : known.Fresh) :
    (outlineNode chain node known).Ordered known.definitions.length := by
  by_cases column : ∃ ref, node = .expr (.column ref)
  · obtain ⟨ref, rfl⟩ := column
    simpa [outlineNode] using .readAll _
  by_cases subquery : ∃ span query array, node = .expr (.subquery span query array)
  · obtain ⟨span, query, array, shape⟩ := subquery
    simpa [shape, outlineNode] using outlineQuery_ordered chain array query known fresh
  by_cases nested : ∃ query, node = .query query
  · obtain ⟨query, shape⟩ := nested
    simpa [shape, outlineNode] using outlineQuery_ordered chain false query known fresh
  simp only [not_exists] at column subquery nested
  rw [outlineNode_children column subquery nested]
  exact .sequence _ _ fresh fun child member known fresh => outlineNode_ordered chain child known fresh
termination_by (node.size, 1)
decreasing_by
  · apply Prod.Lex.left
    simp only [shape, Node.size, Expr.subquery.sizeOf_spec]
    omega
  · rw [shape]
    exact Prod.Lex.right _ (by decide)
  · exact Prod.Lex.left _ _ (Node.size_lt_of_mem_children member)

theorem outlineItems_ordered (chain : ScopeChain) (items : List SelectItem) (anonymous : Nat)
    (known : Model) (fresh : known.Fresh) :
    (outlineItems chain items anonymous known).1.Ordered known.definitions.length := by
  match items with
  | [] => simpa [outlineItems] using .empty
  | .star span modifiers :: rest =>
    have first := outlineStar_ordered chain "" span modifiers known fresh
    have others := outlineItems_ordered chain rest anonymous _ (fresh.after first.unused)
    simpa [outlineItems] using first.andThen others
  | .tableStar span table modifiers :: rest =>
    have first := outlineStar_ordered chain table span modifiers known fresh
    have others := outlineItems_ordered chain rest anonymous _ (fresh.after first.unused)
    simpa [outlineItems] using first.andThen others
  | .expr span expr aliasName aliasSpan :: rest =>
    have first := outlineNode_ordered chain (.expr expr) known fresh
    have others := outlineItems_ordered chain rest
      (if (defineColumn expr aliasName anonymous).2 then anonymous + 1 else anonymous) _
      (fresh.after first.unused)
    simpa [outlineItems] using first.andThen others
termination_by (sizeOf items, 0)
decreasing_by
  all_goals
    apply Prod.Lex.left
    simp only [Node.size, List.cons.sizeOf_spec, SelectItem.star.sizeOf_spec,
      SelectItem.tableStar.sizeOf_spec, SelectItem.expr.sizeOf_spec]
    omega

theorem outlineStar_ordered (chain : ScopeChain) (table : String) (span : Span)
    (modifiers : List StarModifier) (known : Model) (fresh : known.Fresh) :
    (outlineStar chain table span modifiers known).1.Ordered known.definitions.length := by
  have replacements := Outline.Ordered.sequence (outlineNode chain)
    (modifiers.flatMap StarModifier.nodes) fresh
    fun node member known fresh => outlineNode_ordered chain node known fresh
  rw [outlineStar_eq]
  exact replacements.andThen (.readAll _)
termination_by (sizeOf modifiers, 0)
decreasing_by exact Prod.Lex.left _ _ (size_lt_of_mem_modifierNodes member)

end

/-! ### Places inside and outside of a named query -/

theorem Made.Follows.within {made : Made} {body : Query} {id : Nat} {sites before after : List Site}
    (follows : made.Follows body id sites before after) :
    ∀ site ∈ (outlineQuery [] false body made.known).1.sites, site.Within id := by
  have reads := statement_reads [] false body made.known [] made.known (List.forall_mem_nil _)
    follows.fresh.reads
  rw [← follows.position]
  simpa using reads.1.within

theorem Made.Follows.lookup_lt {made : Made} {body : Query} {id : Nat}
    {sites before after : List Site} (follows : made.Follows body id sites before after)
    {name : String} {target : Nat} (found : made.known.lookup name = some target) : target < id := by
  have earlier := follows.fresh.named.lookup found
  have position := follows.position
  simp only [Model.definitions_after, List.length_append] at position
  omega

theorem outlineCtes_made {ctes : List Cte} {cte : Cte} (member : cte ∈ ctes) (known : Model) :
    ∃ made ∈ (outlineCtes ctes known).1.made, made.cte = cte := by
  induction ctes generalizing known with
  | nil => simp at member
  | cons first rest ih =>
    obtain ⟨span, name, nameSpan, names, query⟩ := first
    rcases List.mem_cons.1 member with rfl | later
    · cases query with
      | none => exact ⟨_, by rw [outlineCtes]; exact List.mem_cons_self .., rfl⟩
      | some query =>
        refine ⟨⟨{ name, nameSpan, columns :=
            renameColumns (outlineQuery [] false query known).2 names },
          ⟨span, name, nameSpan, names, some query⟩, known⟩, ?_, rfl⟩
        rw [outlineCtes]
        exact List.mem_append_left _ (List.mem_append_right _ (List.mem_cons_self ..))
    · cases query with
      | none =>
        obtain ⟨made, place, same⟩ := ih later (known.register { name, nameSpan, columns := [] })
        exact ⟨made, by simp [outlineCtes, place], same⟩
      | some query =>
        obtain ⟨made, place, same⟩ := ih later ((known.after (outlineQuery [] false query known).1).register
          { name, nameSpan, columns := renameColumns (outlineQuery [] false query known).2 names })
        exact ⟨made, by simp [outlineCtes, place], same⟩

/-- A named query that refers to itself does not read itself, in a recursive list as in any other.
Every name in it stands for an earlier definition or for none, so its places reach earlier
definitions only; a column of its own is marked if and only if a place outside of it reaches the
column, and is reported otherwise if it has a name of its own. -/
theorem self_references_reach_nothing (query : Query) :
    (∀ clause, query.definitions = some clause → ∀ cte ∈ clause.ctes,
      ∃ made ∈ (Outline.ofQuery query).made, made.cte = cte) ∧
    ∀ (id : Nat) (made : Made) (body : Query), (Outline.ofQuery query).made[id]? = some made →
      made.cte.query = some body →
      (∀ name target, made.known.lookup name = some target → target < id) ∧
      (∀ site ∈ (outlineQuery [] false body made.known).1.sites, ∀ other key,
        site.Reaches (Outline.ofQuery query).definitions other key → other < id) ∧
      ∃ before after, (Outline.ofQuery query).sites =
          before ++ (outlineQuery [] false body made.known).1.sites ++ after ∧
        ∀ column ∈ (collect query).columns id,
          (column.used = true ↔ ∃ site ∈ before ++ after,
            site.Reaches (Outline.ofQuery query).definitions id column.key) ∧
          (column.violates = true ↔ column.reportable = true ∧ ∀ site ∈ before ++ after,
            ¬site.Reaches (Outline.ofQuery query).definitions id column.key) := by
  constructor
  · intro clause written cte member
    obtain ⟨span, recursive, ctes⟩ := clause
    obtain ⟨made, place, same⟩ := outlineCtes_made member {}
    refine ⟨made, ?_, same⟩
    simp only [Outline.ofQuery, written, outlineWith, Outline.made_append]
    exact List.mem_append_left _ place
  · intro id made body position written
    have ordered := outlineQuery_ordered [] true query {} Model.Fresh.empty
    rw [← ofQuery_eq] at ordered
    obtain ⟨before, after, follows⟩ := ordered.follows id made body position written
    rw [List.length_nil, Nat.zero_add] at follows
    have inside : ∀ site ∈ (outlineQuery [] false body made.known).1.sites, ∀ other key,
        site.Reaches (Outline.ofQuery query).definitions other key → other < id :=
      fun site member other key reached => Site.Reaches.lt (follows.within site member) reached
    refine ⟨fun name target => follows.lookup_lt, inside, before, after, follows.sites, ?_⟩
    intro column member
    have used : column.used = true ↔ ∃ site ∈ before ++ after,
        site.Reaches (Outline.ofQuery query).definitions id column.key := by
      rw [(collect_reads query).used_iff member, follows.sites]
      constructor
      · rintro ⟨site, place, reached⟩
        refine ⟨site, ?_, reached⟩
        have outside : site ∉ (outlineQuery [] false body made.known).1.sites :=
          fun own => Nat.lt_irrefl id (inside site own id column.key reached)
        simpa [outside] using place
      · rintro ⟨site, place, reached⟩
        refine ⟨site, ?_, reached⟩
        rcases List.mem_append.1 place with early | late
        · exact List.mem_append_left _ (List.mem_append_left _ early)
        · exact List.mem_append_right _ late
    refine ⟨used, ?_⟩
    have unread := not_congr used
    rw [Bool.not_eq_true] at unread
    simp only [Column.violates, Bool.and_eq_true, Bool.not_eq_true', unread, not_exists, not_and]
    exact and_comm

/-- `WITH RECURSIVE r AS (SELECT a AS n, b AS d FROM s UNION ALL SELECT x.n, x.n FROM r AS x WHERE x.d)
SELECT n FROM r`. -/
def recursiveQuery : Query :=
  let item (ref : ColumnRef) (aliasName : String) : SelectItem := .expr {} (.column ref) aliasName {}
  let first := simpleBlock [item { column := "a" } "n", item { column := "b" } "d"] "s"
  let columns := [item { table := "x", column := "n" } "", item { table := "x", column := "n" } ""]
  let later : SelectBlock := { simpleBlock columns "" with
    source := some ⟨{}, .table { name := "r", aliasName := "x" }, []⟩
    filter := some (.column { table := "x", column := "d" }) }
  let body : Query := ⟨{}, none, .combined {} (.block first) .union true (.single {} (.block later))⟩
  ⟨{}, some ⟨{}, true, [⟨{}, "r", {}, [], some body⟩]⟩,
    .single {} (.block (simpleBlock [item { column := "n" } ""] "r"))⟩

/-- The condition `x.d` refers to the column `d` of the query that it belongs to, and the column is
reported all the same. -/
theorem recursive_condition_reads_nothing :
    recursiveQuery.definitions.map WithClause.recursive = some true ∧
    (collect recursiveQuery).columns 0 = [{ name := "n", used := true }, { name := "d" }] ∧
    analyze recursiveQuery = [⟨"r", "d", {}⟩] :=
  ⟨rfl, by cbv, by cbv⟩

end QueryLint.Usage
