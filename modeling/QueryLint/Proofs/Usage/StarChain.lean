import QueryLint.Proofs.Usage.Scoping
import QueryLint.Proofs.Usage.UnusedColumn

/-!
Chains of stars. A named query `b AS (SELECT * FROM a)` takes its columns over from the query that `a`
refers to at that point and reads all of them. In a chain of such queries every one has the columns of
the first one under the same names, and all columns are read up to those of the last one.
-/

namespace QueryLint.Usage

/-- The definition is `SELECT * FROM previous` without further clauses, under whatever alias. -/
inductive StarsOver (previous : String) : Cte → Prop
  | intro {span nameSpan querySpan bodySpan fromSpan starSpan : Span} {name : String}
      {block : SelectBlock} {table : TableName}
      (items : block.items = [.star starSpan []])
      (source : block.source = some ⟨fromSpan, .table table, []⟩)
      (bare : ∀ ordered, clauseNodes block ordered = [])
      (single : (table.project.isEmpty && table.dataset.isEmpty) = true)
      (refers : Text.fold table.name = Text.fold previous)
      (named : table.name.isEmpty = false) :
      StarsOver previous
        ⟨span, name, nameSpan, [], some ⟨querySpan, none, .single bodySpan (.block block)⟩⟩

def mirrored (span : Span) (columns : List Column) : List Column :=
  columns.map fun column => { name := column.name, span, mirrored := true }

theorem exposedName_isEmpty {table : TableName} (named : table.name.isEmpty = false) :
    table.exposedName.isEmpty = false := by
  unfold TableName.exposedName
  split
  · exact named
  · next written => simpa using written

theorem passedOn_single (known : Model) (aliasName : String) (id : Nat) (span : Span) :
    known.passedOn [[⟨aliasName, some id⟩]] "" span [] = mirrored span (known.columns id) := by
  simp [Model.passedOn, Model.starSources, Scope.targets, Model.excepted, mirrored]

def wholeStar (aliasName : String) (id : Nat) : Site := .star [[⟨aliasName, some id⟩]] "" [] []

theorem wholeStar_reaches (aliasName : String) (id : Nat) (definitions : List Definition) (other : Nat)
    (key : String) : (wholeStar aliasName id).Reaches definitions other key ↔ other = id := by
  simp [wholeStar, Site.Reaches, Model.starSources, Scope.targets]

theorem outlineBlock_star {block : SelectBlock} {known : Model} {aliasName : String} {id : Nat}
    {span : Span} (sources : (outlineFrom [] block.source known).1 = {})
    (scope : block.scope known = [⟨aliasName, some id⟩])
    (bare : ∀ ordered, clauseNodes block ordered = []) (items : block.items = [.star span []]) :
    outlineBlock [] false block known =
      (.readAll [wholeStar aliasName id], mirrored span (known.columns id)) := by
  rw [outlineBlock_eq]
  simp only [outlineFrom_scope, scope, sources, bare, items, outlineItems, outlineStar_eq,
    List.flatMap_nil, Outline.sequence, Outline.append_empty, Outline.empty_append,
    Model.after_empty, passedOn_single, List.append_nil]
  rfl

theorem renameColumns_nil (columns : List Column) : renameColumns columns [] = columns := by
  cases columns <;> rfl

theorem outlineCtes_stars {previous : String} {cte : Cte} (stars : StarsOver previous cte)
    {known : Model} {id : Nat} (found : known.lookup previous = some id) (rest : List Cte) :
    ∃ (definition : Definition) (aliasName : String) (span : Span),
      definition.name = cte.name ∧ definition.columns = mirrored span (known.columns id) ∧
      outlineCtes (cte :: rest) known =
        ({ made := [⟨definition, cte, known⟩], sites := [wholeStar aliasName id] } ++
          (outlineCtes rest (known.register definition)).1,
          (outlineCtes rest (known.register definition)).2) := by
  obtain ⟨items, source, bare, single, refers, named⟩ := stars
  rename_i nameSpan _ _ _ starSpan name block table
  have target : known.lookup table.name = some id := by
    rw [← found, Model.lookup, Model.lookup, refers]
  have scope : block.scope known = [⟨Text.fold table.exposedName, some id⟩] := by
    simp [SelectBlock.scope, source, Scope.add, Scope.addJoins, single, target, Scope.bind,
      exposedName_isEmpty named, Scope.bindKey]
  have sources : (outlineFrom [] block.source known).1 = {} := by
    simp only [outlineFrom, source, outlineSources, outlineJoins, outlineSource, single, if_true,
      Outline.append_empty]
  refine ⟨{ name, nameSpan, columns := mirrored starSpan (known.columns id) },
    Text.fold table.exposedName, starSpan, rfl, rfl, ?_⟩
  simp only [outlineCtes, outlineQuery, outlineWith, outlineBody,
    outlineBlock_star sources scope bare items, Outline.empty_append, Model.after_readAll,
    renameColumns_nil]
  rfl

/-! ### A chain -/

/-- Each definition but the first is a star over the one before it. -/
def StarChain (ctes : List Cte) : Prop := ctes.IsChain fun previous cte => StarsOver previous.name cte

theorem getElem?_outlineCtes (ctes : List Cte) {known : Model} {id : Nat}
    (existing : id < known.definitions.length) :
    (outlineCtes ctes known).2.definitions[id]? = known.definitions[id]? := by
  rw [outlineCtes_definitions, List.getElem?_append_left existing]

/-- `later` is made by the definition that stands `place` places behind the first one of a chain. -/
structure Linked (ctes : List Cte) (place : Nat) (first later : Definition) : Prop where
  name : ctes[place]?.map (·.name) = some later.name
  columns : later.columns.map (·.name) = first.columns.map (·.name)
  mirrored : 0 < place ∨ (∀ column ∈ first.columns, column.mirrored = true) →
    ∀ column ∈ later.columns, column.mirrored = true

/-- A chain of definitions makes one definition for each link, and a star over every one but the last. -/
theorem outlineCtes_chain {root : Cte} {links : List Cte} (chain : StarChain (root :: links))
    {known : Model} {id : Nat} {first : Definition} (made : known.definitions[id]? = some first)
    (last : known.definitions.length = id + 1) (name : first.name = root.name)
    (found : known.lookup root.name = some id) (place : Nat) (inside : place ≤ links.length) :
    (∃ later, (outlineCtes links known).2.definitions[id + place]? = some later ∧
      Linked (root :: links) place first later) ∧
    (place < links.length →
      ∃ aliasName, wholeStar aliasName (id + place) ∈ (outlineCtes links known).1.sites) := by
  induction links generalizing root known id first place with
  | nil =>
    obtain rfl := Nat.le_zero.1 inside
    simp only [outlineCtes]
    exact ⟨⟨first, made, by simp [name], rfl, by simp⟩, nofun⟩
  | cons link rest ih =>
    obtain ⟨stars, further⟩ := List.isChain_cons_cons.1 chain
    obtain ⟨definition, aliasName, span, named, columns, outline⟩ :=
      outlineCtes_stars stars found rest
    have next : (known.register definition).definitions[id + 1]? = some definition := by
      simp [Model.register, ← last]
    have registered : (known.register definition).lookup link.name = some (id + 1) := by
      rw [← named, ← last]
      exact lookup_setKey _ _ _
    have others := ih further next (by simp [Model.register, last]) named registered
    have passed : first.columns = known.columns id := by simp [Model.columns, made]
    rw [outline]
    cases place with
    | zero =>
      have existing : id < (known.register definition).definitions.length := by
        rw [Model.register, List.length_append, last]
        omega
      have kept : (outlineCtes rest (known.register definition)).2.definitions[id]? = some first := by
        rw [getElem?_outlineCtes rest existing, Model.register,
          List.getElem?_append_left (by omega), made]
      exact ⟨⟨first, kept, by simp [name], rfl, by simp⟩, fun _ => ⟨aliasName, List.mem_cons_self ..⟩⟩
    | succ place =>
      obtain ⟨⟨later, position, linked⟩, stars⟩ := others place (Nat.le_of_succ_le_succ inside)
      rw [Nat.add_right_comm, Nat.add_assoc] at position
      refine ⟨⟨later, position, linked.name, ?_, ?_⟩, ?_⟩
      · rw [linked.columns, columns, passed]
        simp [mirrored]
      · intro _
        apply linked.mirrored
        right
        simp [columns, mirrored]
      · intro further
        obtain ⟨aliasName, member⟩ := stars (Nat.lt_of_succ_lt_succ further)
        rw [Nat.add_right_comm, Nat.add_assoc] at member
        exact ⟨aliasName, List.mem_append_right _ member⟩

/-! ### The chain in a statement -/

theorem outlineCtes_append (first second : List Cte) (known : Model) :
    outlineCtes (first ++ second) known =
      ((outlineCtes first known).1 ++ (outlineCtes second (outlineCtes first known).2).1,
        (outlineCtes second (outlineCtes first known).2).2) := by
  induction first generalizing known with
  | nil => simp only [List.nil_append, outlineCtes, Outline.empty_append]
  | cons cte rest ih =>
    obtain ⟨span, name, nameSpan, names, query⟩ := cte
    cases query <;> simp only [List.cons_append, outlineCtes, ih, Outline.append_assoc]

theorem outlineCtes_last (before : List Cte) (root : Cte) (known : Model) :
    ∃ (inside : Model) (definition : Definition), definition.name = root.name ∧
      (outlineCtes (before ++ [root]) known).2 = inside.register definition := by
  obtain ⟨span, name, nameSpan, names, query⟩ := root
  rw [outlineCtes_append]
  cases query with
  | none =>
    simp only [outlineCtes]
    exact ⟨_, { name, nameSpan, columns := [] }, rfl, rfl⟩
  | some query =>
    simp only [outlineCtes]
    exact ⟨_, { name, nameSpan, columns := renameColumns _ names }, rfl, rfl⟩

section Statement

variable {query : Query} {span : Span} {recursive : Bool} {first rest : List Cte}

theorem getElem?_model (written : query.definitions = some ⟨span, recursive, first ++ rest⟩)
    {id : Nat} {definition : Definition}
    (made : (outlineCtes first {}).2.definitions[id]? = some definition) :
    (Outline.model query).definitions[id]? = some definition := by
  simp only [outlineCtes_definitions, List.nil_append] at made
  obtain ⟨existing, _⟩ := List.getElem?_eq_some_iff.1 made
  have shape : (Outline.model query).definitions = (outlineCtes first {}).1.definitions ++
      ((outlineCtes rest (outlineCtes first {}).2).1.definitions ++
        (outlineBody [] true true query.body (outlineWith query.definitions {}).2).1.definitions) := by
    simp only [Outline.model, Outline.ofQuery, written, outlineWith, outlineCtes_append,
      Outline.definitions_append, List.append_assoc]
  rw [shape, List.getElem?_append_left existing]
  exact made

theorem mem_sites_ofQuery (written : query.definitions = some ⟨span, recursive, first ++ rest⟩)
    {site : Site} (member : site ∈ (outlineCtes first {}).1.sites) :
    site ∈ (Outline.ofQuery query).sites := by
  simp only [Outline.ofQuery, written, outlineWith, outlineCtes_append, Outline.sites_append,
    List.mem_append]
  exact .inl (.inl member)

end Statement

def ReadSomewhere (query : Query) (id : Nat) (key : String) : Prop :=
  ∃ site ∈ (Outline.ofQuery query).sites, site.Reaches (Outline.model query).definitions id key

theorem getElem?_collect {query : Query} {id : Nat} {definition : Definition}
    (made : (Outline.model query).definitions[id]? = some definition) :
    (collect query).definitions[id]? = some (definition.marking (ReadSomewhere query id)) := by
  rw [(collect_reads query).marked]
  simp only [Model.marking, List.getElem?_mapIdx, made, Option.map_some]
  rfl

theorem names_marking (definition : Definition) (reached : String → Prop) :
    (definition.marking reached).columns.map (·.name) = definition.columns.map (·.name) := by
  simp [Definition.marking, Column.marking]

theorem Linked.marking {ctes : List Cte} {place : Nat} {first later : Definition}
    (linked : Linked ctes place first later) (read reached : String → Prop) :
    Linked ctes place (first.marking read) (later.marking reached) where
  name := linked.name
  columns := by rw [names_marking, names_marking, linked.columns]
  mirrored := by
    intro behind column member
    obtain ⟨source, present, rfl⟩ := List.mem_map.1 member
    apply linked.mirrored (behind.imp_right _) source present
    intro all other own
    exact all (other.marking read) (List.mem_map_of_mem own)

theorem not_numbered {model : Model} {id : Nat} {definition : Definition}
    (made : model.definitions[id]? = some definition)
    (silent : (∀ column ∈ definition.columns, column.used = true) ∨
      ∀ column ∈ definition.columns, column.mirrored = true) :
    ∀ entry ∈ model.numberedViolations, entry.1 ≠ id := by
  intro entry member same
  obtain ⟨other, position, column, own, violates⟩ :=
    Model.exists_of_mem_numberedViolations member
  rw [same, made] at position
  obtain rfl := Option.some.inj position
  rcases silent with used | mirrored
  · simp [Column.violates, used column own] at violates
  · simp [Column.violates, Column.reportable, mirrored column own] at violates

theorem length_defineAll (ctes : List Cte) :
    (defineAll ctes {}).definitions.length = (outlineCtes ctes {}).2.definitions.length := by
  rw [(defineAll_reads ctes {} [] {} .empty).marked, Model.length_definitions_marking]

/-- The columns of the first definition of a chain of stars, `SELECT * FROM` the definition before it
each, come through to the last one: every definition of the chain has them in the same order under the
same names, and all are marked as passed on behind the first one. They are all used in every definition
but the last, whatever the rest of the statement reads, and none is reported. -/
theorem star_chain_propagates (query : Query) (span : Span) (recursive : Bool)
    (before links after : List Cte) (root : Cte)
    (written : query.definitions = some ⟨span, recursive, before ++ root :: links ++ after⟩)
    (chain : StarChain (root :: links)) (linked : links ≠ []) :
    let id := (defineAll (before ++ [root]) {}).definitions.length - 1
    ∃ first, (collect query).definitions[id]? = some first ∧
      analyze query = (collect query).numberedViolations.map Prod.snd ∧
      ∀ place ≤ links.length, ∃ later, (collect query).definitions[id + place]? = some later ∧
        (root :: links)[place]?.map (·.name) = some later.name ∧
        later.columns.map (·.name) = first.columns.map (·.name) ∧
        (0 < place → ∀ column ∈ later.columns, column.mirrored = true) ∧
        (place < links.length → ∀ column ∈ later.columns, column.used = true) ∧
        ∀ entry ∈ (collect query).numberedViolations, entry.1 ≠ id + place := by
  intro id
  obtain ⟨inside, definition, named, last⟩ := outlineCtes_last before root {}
  have count : id = inside.definitions.length := by
    simp [id, length_defineAll, last, Model.register]
  have made : (outlineCtes (before ++ [root]) {}).2.definitions[id]? = some definition := by
    simp [last, Model.register, count]
  have found : (outlineCtes (before ++ [root]) {}).2.lookup root.name = some id := by
    rw [last, ← named, count]
    exact lookup_setKey _ _ _
  have size : (outlineCtes (before ++ [root]) {}).2.definitions.length = id + 1 := by
    simp [last, Model.register, count]
  have whole : query.definitions =
      some ⟨span, recursive, (before ++ [root] ++ links) ++ after⟩ := by
    rw [written]
    simp
  have split := outlineCtes_append (before ++ [root]) links {}
  have kept {number : Nat} {own : Definition} (position :
      (outlineCtes links (outlineCtes (before ++ [root]) {}).2).2.definitions[number]? = some own) :=
    getElem?_collect (getElem?_model whole (by rw [split]; exact position))
  have head := kept ((getElem?_outlineCtes links (by omega)).trans made)
  refine ⟨_, head, (Model.map_snd_numberedViolations _).symm, ?_⟩
  intro place within
  obtain ⟨⟨later, position, follows⟩, stars⟩ :=
    outlineCtes_chain chain made size named found place within
  have marked := follows.marking (ReadSomewhere query id) (ReadSomewhere query (id + place))
  have used (earlier : place < links.length) :
      ∀ column ∈ (later.marking (ReadSomewhere query (id + place))).columns, column.used = true := by
    intro column member
    obtain ⟨source, _, rfl⟩ := List.mem_map.1 member
    obtain ⟨aliasName, star⟩ := stars earlier
    have site := mem_sites_ofQuery whole (by rw [split]; exact List.mem_append_right _ star)
    exact (Column.used_marking source _).2 (.inr ⟨_, site, (wholeStar_reaches ..).2 rfl⟩)
  have mirrored (behind : 0 < place) := marked.mirrored (.inl behind)
  refine ⟨_, kept position, marked.name, marked.columns, mirrored, used,
    not_numbered (kept position) ?_⟩
  by_cases earlier : place < links.length
  · exact .inl (used earlier)
  · right
    apply mirrored
    have some_link := List.length_pos_of_ne_nil linked
    omega

def starCte (name source : String) : Cte :=
  ⟨{}, name, {}, [], some ⟨{}, none, .single {} (.block (simpleBlock [.star {} []] source))⟩⟩

theorem starsOver_starCte (name : String) {source : String} (named : source.isEmpty = false) :
    StarsOver source (starCte name source) :=
  .intro rfl rfl (fun ordered => by cases ordered <;> rfl) rfl rfl named

def columnsQuery (names : List String) (source : String) : Query :=
  ⟨{}, none, .single {} (.block (simpleBlock
    (names.map fun name => .expr {} (.column { column := name }) "" {}) source))⟩

def chainedRoot : Cte := ⟨{}, "a", {}, [], some (columnsQuery ["x", "y"] "s")⟩

/-- `WITH a AS (SELECT x, y FROM s), a AS (SELECT * FROM a), b AS (SELECT * FROM a) SELECT z FROM u`. -/
def chainedQuery : Query :=
  { columnsQuery ["z"] "u" with
    definitions := some ⟨{}, false, [chainedRoot, starCte "a" "a", starCte "b" "a"]⟩ }

/-- The second `a` is read as a whole, and `b` has its columns although nothing reads them. -/
theorem chainedQuery_propagates :
    (∀ column ∈ (collect chainedQuery).columns 1, column.used = true) ∧
    (∀ column ∈ (collect chainedQuery).columns 2, column.mirrored = true) ∧
    analyze chainedQuery = [] := by
  have chain : StarChain [chainedRoot, starCte "a" "a", starCte "b" "a"] := by
    apply List.IsChain.cons_cons (starsOver_starCte "a" (by decide))
    exact List.IsChain.cons_cons (starsOver_starCte "b" (by decide)) (.singleton _)
  obtain ⟨first, -, -, each⟩ := star_chain_propagates chainedQuery {} false []
    [starCte "a" "a", starCte "b" "a"] [] chainedRoot rfl chain nofun
  have count : (defineAll ([] ++ [chainedRoot]) {}).definitions.length - 1 = 0 := by cbv
  rw [count] at each
  obtain ⟨second, place, -, -, -, used, -⟩ := each 1 (by decide)
  obtain ⟨third, last, -, -, mirrored, -⟩ := each 2 (by decide)
  have columns (id : Nat) (definition : Definition)
      (made : (collect chainedQuery).definitions[id]? = some definition) :
      (collect chainedQuery).columns id = definition.columns := by
    rw [Model.columns, made]
    rfl
  refine ⟨?_, ?_, by cbv⟩
  · rw [columns 1 second place]
    exact used (by decide)
  · rw [columns 2 third last]
    exact mirrored (by decide)

end QueryLint.Usage
