import QueryLint.Proofs.Usage.Marking
import Mathlib.Data.List.Induction

/-!
Names end with the query that defines them. A query notes what the names of its definitions refer to
before it makes them and puts that back when it has been visited. The index of names is then, entry by
entry, what it was, whatever the query defines, however often and at whatever depth
(`statement_latest`), so a query is visited as if the index were handed down and never handed back
(`statement_eq`).
-/

namespace QueryLint.Usage

/-! ### The recursion of the pass without its bounds -/

theorem foldl_attach_mark (chain : ScopeChain) (nodes : List Node) (model : Model) :
    nodes.attach.foldl (fun model ⟨node, _⟩ => mark chain node model) model =
      nodes.foldl (fun model node => mark chain node model) model :=
  List.foldl_attach (f := fun model node => mark chain node model)

theorem blockColumns_eq (chain : ScopeChain) (final : Bool) (block : SelectBlock) (model : Model) :
    blockColumns chain final block model =
      let (bound, scope) := match block.source with
        | none => (model, [])
        | some source => sources chain source model
      itemColumns (scope :: chain) block.items 0
        ((clauseNodes block (final || block.hasLimit)).foldl
          (fun model node => mark (scope :: chain) node model) bound) := by
  obtain ⟨_, _, _, _, source, _, _, _, _, _, _, _, _, _, _⟩ := block
  cases source <;> simp only [blockColumns, foldl_attach_mark]

theorem joinSources_cons (chain : ScopeChain) (scope : Scope) (join : Join) (rest : List Join)
    (model : Model) : joinSources chain scope (join :: rest) model =
      let (after, scope) := bindSource chain scope join.right model
      joinSources chain scope rest ((optionNodes join.condition ++ columnNodes join.columns).foldl
        (fun model node => mark (scope :: chain) node model) after) := by
  obtain ⟨_, _, _, right, condition, columns⟩ := join
  simp only [joinSources, foldl_attach_mark]

theorem mark_children {chain : ScopeChain} {node : Node} {model : Model}
    (column : ∀ ref, node ≠ .expr (.column ref))
    (subquery : ∀ span query array, node ≠ .expr (.subquery span query array))
    (nested : ∀ query, node ≠ .query query) :
    mark chain node model =
      node.children.foldl (fun model child => mark chain child model) model := by
  rw [mark.eq_4 _ _ _ column subquery nested, foldl_attach_mark]

/-! ### Series of changes to an index -/

section Index

open Model

variable {latest : List (String × Nat)} {changes : List (String × Option Nat)}

theorem mem_setKey {key : String} {value : Nat} {entries : List (String × Nat)}
    {entry : String × Nat} (member : entry ∈ setKey key value entries) :
    entry ∈ entries ∨ entry = (key, value) := by
  induction entries with
  | nil => exact .inr (List.mem_singleton.1 member)
  | cons first rest ih =>
    unfold setKey at member
    split at member
    · rcases List.mem_cons.1 member with same | later
      · exact .inr same
      · exact .inl (List.mem_cons_of_mem _ later)
    · rcases List.mem_cons.1 member with same | later
      · exact .inl (same ▸ List.mem_cons_self ..)
      · exact (ih later).imp_left (List.mem_cons_of_mem _)

theorem mem_keys_setKey {key other : String} {id : Nat}
    (member : other ∈ (setKey key id latest).map Prod.fst) :
    other = key ∨ other ∈ latest.map Prod.fst := by
  obtain ⟨entry, present, rfl⟩ := List.mem_map.1 member
  rcases mem_setKey present with earlier | rfl
  · exact .inr (List.mem_map_of_mem earlier)
  · exact .inl rfl

theorem lookup_setKey (key : String) (id : Nat) (latest : List (String × Nat)) :
    (setKey key id latest).lookup key = some id := by
  induction latest with
  | nil => simp [setKey]
  | cons entry rest ih =>
    unfold setKey
    split
    · simp
    · next different =>
      have apart : (key == entry.1) = false := by
        rw [beq_eq_false_iff_ne]
        exact fun same => different (beq_iff_eq.2 same.symm)
      rw [List.lookup_cons, apart]
      exact ih

/-- A name is in the index afterwards if its last change made it refer to something, or if it was
there and has not been changed. -/
theorem mem_keys_foldl_restoreName {key : String}
    (member : key ∈ (changes.foldl restoreName latest).map Prod.fst) :
    (∃ id, changes.reverse.lookup key = some (some id)) ∨
      changes.reverse.lookup key = none ∧ key ∈ latest.map Prod.fst := by
  induction changes using List.reverseRecOn with
  | nil => exact .inr ⟨rfl, member⟩
  | append_singleton changes change ih =>
    obtain ⟨changed, value⟩ := change
    rw [List.foldl_concat] at member
    rw [List.reverse_append, List.reverse_singleton, List.singleton_append, List.lookup_cons]
    by_cases same : key = changed
    · subst same
      cases value with
      | some id => exact .inl ⟨id, by simp⟩
      | none => simp [restoreName] at member
    · have other : (key == changed) = false := by simpa using same
      simp only [other]
      apply ih
      cases value with
      | some id => exact (mem_keys_setKey member).resolve_left same
      | none =>
        obtain ⟨entry, kept, rfl⟩ := List.mem_map.1 member
        exact List.mem_map_of_mem (List.mem_of_mem_filter kept)

theorem lookup_filter_ne {ν : Type} (key other : String) (entries : List (String × ν)) :
    (entries.filter fun entry => entry.1 != key).lookup other =
      if other = key then none else entries.lookup other := by
  induction entries with
  | nil => simp
  | cons entry rest ih =>
    obtain ⟨name, value⟩ := entry
    by_cases removed : name = key
    · subst removed
      rw [List.filter_cons_of_neg (by simp), ih, List.lookup_cons]
      by_cases same : other = name
      · simp [same]
      · simp [same, beq_eq_false_iff_ne.2 same]
    · rw [List.filter_cons_of_pos (by simpa using removed), List.lookup_cons, List.lookup_cons, ih]
      by_cases same : other = name
      · subst same
        simp [removed]
      · simp [beq_eq_false_iff_ne.2 same]

/-- Changes of the first entry and changes of the others do not meet. The first entry has the value of
its last change. -/
theorem foldl_restoreName_cons {key : String} (kept : (key, none) ∉ changes) (id : Nat)
    (rest : List (String × Nat)) : ∃ last,
      changes.foldl restoreName ((key, id) :: rest) =
        (key, last) :: (changes.filter fun change => change.1 != key).foldl restoreName rest ∧
      (last = id ∨ changes.reverse.lookup key = some (some last)) := by
  induction changes using List.reverseRecOn with
  | nil => exact ⟨id, rfl, .inl rfl⟩
  | append_singleton changes change ih =>
    obtain ⟨changed, value⟩ := change
    rw [List.mem_append, List.mem_singleton, not_or] at kept
    obtain ⟨last, folded, source⟩ := ih kept.1
    rw [List.foldl_concat, folded, List.reverse_append, List.reverse_singleton, List.singleton_append,
      List.filter_append, List.lookup_cons]
    by_cases same : changed = key
    · subst same
      cases value with
      | none => exact absurd rfl kept.2
      | some target =>
        exact ⟨target, by simp [restoreName, setKey], .inr (by simp)⟩
    · have apart : (changed == key) = false := beq_eq_false_iff_ne.2 same
      have before : (key == changed) = false := beq_eq_false_iff_ne.2 (Ne.symm same)
      refine ⟨last, ?_, ?_⟩
      · cases value with
        | some target => simp [restoreName, setKey, before, bne, apart]
        | none => simp [restoreName, before, bne, apart]
      · simpa only [before] using source

/-- Changes after which every changed name refers to what it did leave the index as it was, if no
name that was in it has been taken out in between. -/
theorem foldl_restoreName_eq_self
    (back : ∀ key value, changes.reverse.lookup key = some value → value = latest.lookup key)
    (kept : ∀ key, (key, none) ∈ changes → latest.lookup key = none) :
    changes.foldl restoreName latest = latest := by
  induction latest generalizing changes with
  | nil =>
    rw [← List.map_eq_nil_iff (f := Prod.fst), List.eq_nil_iff_forall_not_mem]
    intro key member
    rcases mem_keys_foldl_restoreName member with ⟨id, last⟩ | ⟨_, before⟩
    · exact absurd (back key (some id) last) (by simp)
    · simp at before
  | cons entry rest ih =>
    obtain ⟨key, id⟩ := entry
    have first : ((key, id) :: rest).lookup key = some id := by simp
    have others : ∀ other, other ≠ key → ((key, id) :: rest).lookup other = rest.lookup other := by
      intro other different
      rw [List.lookup_cons, beq_eq_false_iff_ne.2 different]
    have untouched : (key, none) ∉ changes :=
      fun taken => Option.some_ne_none id (first.symm.trans (kept key taken))
    obtain ⟨last, folded, source⟩ := foldl_restoreName_cons untouched id rest
    have unchanged : last = id := by
      rcases source with same | set
      · exact same
      · exact Option.some.inj ((back key _ set).trans first)
    rw [folded, unchanged]
    congr 1
    apply ih
    · intro other value set
      rw [← List.filter_reverse, lookup_filter_ne] at set
      split at set
      · cases set
      · next different => exact others other different ▸ back other value set
    · intro other taken
      rw [List.mem_filter] at taken
      rw [← others other (by simpa using taken.2)]
      exact kept other taken.1

end Index

/-! ### Names that a query defines -/

/-- The index comes from that of an earlier model by letting some of the names refer to something
else. -/
def Model.Renames (model : Model) (names : List String) (after : Model) : Prop :=
  ∃ made : List (String × Nat), (∀ entry ∈ made, entry.1 ∈ names.map Text.fold) ∧
    after.latest = made.foldl (fun latest entry => setKey entry.1 entry.2 latest) model.latest

namespace Model.Renames

variable {model after further : Model} {names later : List String}

theorem none (model : Model) (names : List String) : model.Renames names model :=
  ⟨[], nofun, rfl⟩

theorem register (same : after.latest = model.latest) (definition : Definition) :
    model.Renames [definition.name] (after.register definition) := by
  refine ⟨[(Text.fold definition.name, after.definitions.length)], ?_, ?_⟩
  · intro entry member
    rw [List.mem_singleton.1 member]
    exact List.mem_singleton_self _
  · rw [← same]
    rfl

theorem trans (renames : model.Renames names after) (next : after.Renames later further) :
    model.Renames (names ++ later) further := by
  obtain ⟨made, listed, index⟩ := renames
  obtain ⟨more, named, result⟩ := next
  refine ⟨made ++ more, ?_, ?_⟩
  · intro entry member
    rw [List.map_append, List.mem_append]
    exact (List.mem_append.1 member).imp (listed entry) (named entry)
  · rw [List.foldl_append, ← index, result]

theorem latest_restoreNames (renames : model.Renames names after)
    {saved : List (String × Option Nat)} (order : saved.Perm (model.saveNames names)) :
    (after.restoreNames saved).latest = model.latest := by
  obtain ⟨made, listed, index⟩ := renames
  have series : (after.restoreNames saved).latest =
      ((made.map fun entry => (entry.1, some entry.2)) ++ saved).foldl restoreName
        model.latest := by
    rw [List.foldl_append, List.foldl_map]
    simp only [restoreNames, index, restoreName]
  have noted : ∀ key value, (key, value) ∈ saved ↔
      key ∈ names.map Text.fold ∧ value = model.latest.lookup key := by
    intro key value
    rw [order.mem_iff, saveNames]
    simp only [List.mem_map, List.mem_eraseDups, Prod.mk.injEq]
    constructor
    · rintro ⟨other, named, rfl, rfl⟩
      exact ⟨named, rfl⟩
    · rintro ⟨named, rfl⟩
      exact ⟨key, named, rfl, rfl⟩
  rw [series]
  apply foldl_restoreName_eq_self
  · intro key value last
    rw [List.reverse_append, List.lookup_append, Option.or_eq_some_iff] at last
    rcases last with put | ⟨absent, set⟩
    · obtain ⟨before, later, split, _⟩ := List.lookup_eq_some_iff.1 put
      have member : (key, value) ∈ saved := List.mem_reverse.1 (split ▸ by simp)
      exact ((noted key value).1 member).2
    · obtain ⟨before, later, split, _⟩ := List.lookup_eq_some_iff.1 set
      have member : (key, value) ∈ made.map fun entry => (entry.1, some entry.2) :=
        List.mem_reverse.1 (split ▸ by simp)
      obtain ⟨entry, new, same⟩ := List.mem_map.1 member
      obtain ⟨rfl, rfl⟩ := Prod.mk.inj same
      have put : (entry.1, model.latest.lookup entry.1) ∈ saved.reverse :=
        List.mem_reverse.2 ((noted _ _).2 ⟨listed entry new, rfl⟩)
      have unmet := List.lookup_eq_none_iff.1 absent _ put
      simp at unmet
  · intro key taken
    rcases List.mem_append.1 taken with set | put
    · obtain ⟨entry, _, same⟩ := List.mem_map.1 set
      cases same
    · exact ((noted key Option.none).1 put).2.symm

end Model.Renames

/-! ### The index after a visit -/

theorem latest_foldl {α : Type} (visit : Model → α → Model) (parts : List α)
    (kept : ∀ part ∈ parts, ∀ model, (visit model part).latest = model.latest) (model : Model) :
    (parts.foldl visit model).latest = model.latest := by
  induction parts generalizing model with
  | nil => rfl
  | cons part rest ih =>
    rw [List.foldl_cons, ih fun part member => kept part (List.mem_cons_of_mem _ member)]
    exact kept part (List.mem_cons_self ..) model

theorem latest_markRef (model : Model) (chain : ScopeChain) (ref : ColumnRef) :
    (model.markRef chain ref).latest = model.latest := by
  rw [Model.markRef_eq, Model.latest_marking]

theorem latest_markAll (model : Model) (scope : Scope) :
    (model.markAll scope).latest = model.latest := by
  rw [Model.markAll_eq, Model.latest_marking]

mutual

theorem statement_latest (chain : ScopeChain) (final : Bool) (query : Query) (model : Model) :
    (statement chain final query model).1.latest = model.latest := by
  match query with
  | ⟨_, definitions, body⟩ =>
    have renames := define_renames definitions model
    have kept := bodyColumns_latest chain final true body (define definitions model)
    have restored := renames.latest_restoreNames (List.Perm.refl _)
    rw [statement]
    simpa only [Model.restoreNames, kept] using restored
termination_by (sizeOf query, 0)

theorem define_renames (definitions : Option WithClause) (model : Model) :
    model.Renames (definedNames definitions) (define definitions model) := by
  match definitions with
  | none =>
    rw [define]
    exact .none model _
  | some ⟨_, _, ctes⟩ =>
    rw [define]
    exact defineAll_renames ctes model
termination_by (sizeOf definitions, 0)

theorem defineAll_renames (ctes : List Cte) (model : Model) :
    model.Renames (ctes.map (·.name)) (defineAll ctes model) := by
  match ctes with
  | [] =>
    rw [defineAll]
    exact .none model _
  | ⟨_, name, nameSpan, _, none⟩ :: rest =>
    rw [defineAll]
    exact Model.Renames.trans (.register rfl { name, nameSpan, columns := [] })
      (defineAll_renames rest _)
  | ⟨_, name, nameSpan, names, some query⟩ :: rest =>
    rw [defineAll]
    exact Model.Renames.trans
      (.register (statement_latest [] false query model) { name, nameSpan, columns := _ })
      (defineAll_renames rest _)
termination_by (sizeOf ctes, 0)

theorem bodyColumns_latest (chain : ScopeChain) (final first : Bool) (body : QueryBody)
    (model : Model) : (bodyColumns chain final first body model).1.latest = model.latest := by
  match body with
  | .single _ (.block block) =>
    rw [bodyColumns]
    exact blockColumns_latest chain final block model
  | .single _ (.nested query) =>
    rw [bodyColumns]
    exact statement_latest chain (final && first) query model
  | .combined _ (.block block) _ _ right =>
    rw [bodyColumns]
    exact (bodyColumns_latest chain final false right _).trans
      (blockColumns_latest chain final block model)
  | .combined _ (.nested query) _ _ right =>
    rw [bodyColumns]
    exact (bodyColumns_latest chain final false right _).trans
      (statement_latest chain false query model)
termination_by (sizeOf body, 0)

theorem blockColumns_latest (chain : ScopeChain) (final : Bool) (block : SelectBlock)
    (model : Model) : (blockColumns chain final block model).1.latest = model.latest := by
  have clauses (scope : Scope) := latest_foldl
    (fun model node => mark (scope :: chain) node model)
    (clauseNodes block (final || block.hasLimit))
    fun node _ model => mark_latest (scope :: chain) node model
  rw [blockColumns_eq]
  cases found : block.source with
  | none => exact (itemColumns_latest _ block.items 0 _).trans (clauses _ model)
  | some source =>
    exact (itemColumns_latest _ block.items 0 _).trans
      ((clauses _ _).trans (sources_latest chain source model))
termination_by (sizeOf block, 0)
decreasing_by
  · exact Prod.Lex.left _ _ (size_lt_of_mem_clauseNodes ‹_›)
  · exact Prod.Lex.left _ _ (size_items_lt block)
  · exact Prod.Lex.left _ _ (size_items_lt block)
  · exact Prod.Lex.left _ _ (size_lt_of_source_eq_some found)

theorem sources_latest (chain : ScopeChain) (source : FromClause) (model : Model) :
    (sources chain source model).1.latest = model.latest := by
  match source with
  | ⟨_, first, joins⟩ =>
    rw [sources]
    exact (joinSources_latest chain _ joins _).trans (bindSource_latest chain [] first model)
termination_by (sizeOf source, 0)

theorem joinSources_latest (chain : ScopeChain) (scope : Scope) (joins : List Join)
    (model : Model) : (joinSources chain scope joins model).1.latest = model.latest := by
  match joins with
  | [] => rw [joinSources]
  | ⟨span, kind, natural, right, condition, columns⟩ :: rest =>
    have conditions (scope : Scope) := latest_foldl
      (fun model node => mark (scope :: chain) node model)
      (optionNodes condition ++ columnNodes columns)
      fun node _ model => mark_latest (scope :: chain) node model
    rw [joinSources_cons]
    exact (joinSources_latest chain _ rest _).trans
      ((conditions _ _).trans (bindSource_latest chain scope right model))
termination_by (sizeOf joins, 0)
decreasing_by
  · have := size_lt_of_mem_joinNodes ‹_›
    apply Prod.Lex.left
    simp only [List.cons.sizeOf_spec, Join.mk.sizeOf_spec]
    omega
  · apply Prod.Lex.left
    simp only [List.cons.sizeOf_spec, Join.mk.sizeOf_spec]
    omega
  · apply Prod.Lex.left
    simp only [List.cons.sizeOf_spec, Join.mk.sizeOf_spec]
    omega

theorem bindSource_latest (chain : ScopeChain) (scope : Scope) (source : TableRef)
    (model : Model) : (bindSource chain scope source model).1.latest = model.latest := by
  match source with
  | .missing => rw [bindSource]
  | .table table =>
    by_cases path : (if table.project.isEmpty && !table.dataset.isEmpty then
        ScopeChain.resolve (scope :: chain) table.dataset else none).isSome = true
    · rw [bindSource, if_pos path]
      exact latest_markRef model _ _
    · rw [bindSource, if_neg path]
  | .derived _ query _ =>
    rw [bindSource]
    exact statement_latest (scope :: chain) false query model
  | .function _ call _ _ _ =>
    rw [bindSource]
    exact mark_latest (scope :: chain) (.expr call) model
  | .pivot _ inner aggregates forColumn values _ =>
    have columns (own : Scope) := latest_foldl
      (fun model node => mark (own :: scope :: chain) node model)
      (pivotNodes aggregates forColumn values)
      fun node _ model => mark_latest (own :: scope :: chain) node model
    simp only [bindSource, foldl_attach_mark]
    exact (latest_markAll _ _).trans
      ((columns _ _).trans (bindSource_latest (scope :: chain) [] inner model))
  | .unpivot _ inner _ _ groups _ =>
    have columns (own : Scope) := latest_foldl
      (fun model ref => model.markRef (own :: scope :: chain) ref)
      (groups.flatMap (·.columns)) fun ref _ model => latest_markRef model _ ref
    rw [bindSource]
    exact (latest_markAll _ _).trans
      ((columns _ _).trans (bindSource_latest (scope :: chain) [] inner model))
termination_by (sizeOf source, 0)
decreasing_by
  · apply Prod.Lex.left
    simp only [TableRef.derived.sizeOf_spec]
    omega
  · apply Prod.Lex.left
    simp only [Node.size, TableRef.function.sizeOf_spec]
    omega
  · exact Prod.Lex.left _ _ (size_lt_of_mem_pivotNodes ‹_›)
  · apply Prod.Lex.left
    simp only [TableRef.pivot.sizeOf_spec]
    omega
  · apply Prod.Lex.left
    simp only [TableRef.unpivot.sizeOf_spec]
    omega

theorem mark_latest (chain : ScopeChain) (node : Node) (model : Model) :
    (mark chain node model).latest = model.latest := by
  by_cases column : ∃ ref, node = .expr (.column ref)
  · obtain ⟨ref, rfl⟩ := column
    rw [mark]
    exact latest_markRef model chain ref
  by_cases subquery : ∃ span query array, node = .expr (.subquery span query array)
  · obtain ⟨span, query, array, shape⟩ := subquery
    rw [shape, mark]
    exact statement_latest chain array query model
  by_cases nested : ∃ query, node = .query query
  · obtain ⟨query, shape⟩ := nested
    rw [shape, mark]
    exact statement_latest chain false query model
  simp only [not_exists] at column subquery nested
  rw [mark_children column subquery nested]
  exact latest_foldl (fun model child => mark chain child model) node.children
    (fun child _ model => mark_latest chain child model) model
termination_by (node.size, 1)
decreasing_by
  · apply Prod.Lex.left
    simp only [shape, Node.size, Expr.subquery.sizeOf_spec]
    omega
  · rw [shape]
    exact Prod.Lex.right _ (by decide)
  · exact Prod.Lex.left _ _ (Node.size_lt_of_mem_children ‹_›)

theorem itemColumns_latest (chain : ScopeChain) (items : List SelectItem) (anonymous : Nat)
    (model : Model) : (itemColumns chain items anonymous model).1.latest = model.latest := by
  match items with
  | [] => rw [itemColumns]
  | .star span modifiers :: rest =>
    rw [itemColumns]
    exact (itemColumns_latest chain rest anonymous _).trans
      (starColumns_latest chain "" span modifiers model)
  | .tableStar span table modifiers :: rest =>
    rw [itemColumns]
    exact (itemColumns_latest chain rest anonymous _).trans
      (starColumns_latest chain table span modifiers model)
  | .expr _ expr _ _ :: rest =>
    rw [itemColumns]
    exact (itemColumns_latest chain rest _ _).trans (mark_latest chain (.expr expr) model)
termination_by (sizeOf items, 0)
decreasing_by
  all_goals
    apply Prod.Lex.left
    simp only [Node.size, List.cons.sizeOf_spec, SelectItem.star.sizeOf_spec,
      SelectItem.tableStar.sizeOf_spec, SelectItem.expr.sizeOf_spec]
    omega

theorem starColumns_latest (chain : ScopeChain) (table : String) (span : Span)
    (modifiers : List StarModifier) (model : Model) :
    (starColumns chain table span modifiers model).1.latest = model.latest := by
  have replaced := latest_foldl (fun model node => mark chain node model)
    (modifiers.flatMap StarModifier.nodes) (fun node _ model => mark_latest chain node model) model
  rw [starColumns, foldl_attach_mark, Model.expandStar_eq]
  exact (Model.latest_marking _ _).trans replaced
termination_by (sizeOf modifiers, 0)
decreasing_by exact Prod.Lex.left _ _ (size_lt_of_mem_modifierNodes ‹_›)

end

/-- A query is visited as if the index of names were handed down to it and never handed back. -/
theorem statement_eq (chain : ScopeChain) (final : Bool) (span : Span)
    (definitions : Option WithClause) (body : QueryBody) (model : Model) :
    statement chain final ⟨span, definitions, body⟩ model =
      let (after, columns) := bodyColumns chain final true body (define definitions model)
      ({ after with latest := model.latest }, columns) := by
  have kept := statement_latest chain final ⟨span, definitions, body⟩ model
  rw [statement] at kept ⊢
  rw [← kept]
  rfl

end QueryLint.Usage
