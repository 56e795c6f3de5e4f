import QueryLint.Proofs.Usage.Shortening
import Mathlib

/-!
Acting on a report leaves the rest of the analysis as it was. A column that nothing reads takes no
part in what other names stand for: wherever a name would be looked for in its definition, the
search would have found the column. Deleting its select item therefore takes away only what the
expression of the item itself reads.

Statements are evaluated by `cbv` here and in the modules above this one. It unfolds functions of the
library through their equations, which only the library as a whole has stated; that is why it is imported
as a whole.
-/

namespace QueryLint.Usage

/-! ### Names without the column -/

section Names

variable {deletion : Deletion} {definitions : List Definition} {key : String}

theorem hasColumn_ofDefinitions
    (keyed : ∀ definition, definitions[deletion.definition]? = some definition →
      definition.columns[deletion.column]?.map Column.key = some key)
    {id : Nat} {other : String} (different : ¬(id = deletion.definition ∧ other = key)) :
    HasColumn (deletion.ofDefinitions 0 definitions) id other ↔ HasColumn definitions id other := by
  simp only [HasColumn, Deletion.ofDefinitions, List.getElem?_mapIdx, Nat.zero_add]
  cases found : definitions[id]? with
  | none => simp
  | some definition =>
    simp only [Option.map_some, Option.some.injEq, exists_eq_left']
    split
    · next same =>
      have deleted := keyed definition (same ▸ found)
      have another : other ≠ key := fun equal => different ⟨same, equal⟩
      simp only [Definition.withoutColumn, List.mem_eraseIdx_iff_getElem?]
      constructor
      · rintro ⟨column, ⟨place, _, entry⟩, rfl⟩
        exact ⟨column, List.mem_of_getElem? entry, rfl⟩
      · rintro ⟨column, member, rfl⟩
        obtain ⟨place, entry⟩ := List.getElem?_of_mem member
        refine ⟨column, ⟨place, ?_, entry⟩, rfl⟩
        rintro rfl
        simp [entry] at deleted
        exact another deleted
    · rfl

/-- A name whose search does not reach the column stands for the same columns. -/
theorem bare_ofDefinitions
    (keyed : ∀ definition, definitions[deletion.definition]? = some definition →
      definition.columns[deletion.column]?.map Column.key = some key)
    (present : HasColumn definitions deletion.definition key) {name : String} {chain : ScopeChain}
    (unread : ¬Bare definitions name chain deletion.definition key) (id : Nat) (other : String) :
    Bare (deletion.ofDefinitions 0 definitions) name chain id other ↔
      Bare definitions name chain id other := by
  induction chain with
  | nil => exact ⟨nofun, nofun⟩
  | cons scope outer ih =>
    symm
    apply bare_cons_congr
    · intro id bound
      symm
      apply hasColumn_ofDefinitions keyed
      rintro ⟨rfl, rfl⟩
      exact unread (.column bound present)
    · intro absent unbound
      exact (ih fun further => unread (.outer absent unbound further)).symm

theorem reaches_ofDefinitions
    (keyed : ∀ definition, definitions[deletion.definition]? = some definition →
      definition.columns[deletion.column]?.map Column.key = some key)
    (present : HasColumn definitions deletion.definition key) {site : Site}
    (unread : ¬site.Reaches definitions deletion.definition key) (id : Nat) (other : String) :
    site.Reaches (deletion.ofDefinitions 0 definitions) id other ↔
      site.Reaches definitions id other := by
  cases site with
  | reference chain ref =>
    simp only [Site.Reaches] at unread ⊢
    split
    · next bare =>
      rw [if_pos bare] at unread
      exact bare_ofDefinitions keyed present unread id other
    · next qualified =>
      rw [if_neg qualified] at unread
      split
      · rfl
      · rfl
      · next unbound =>
        simp only [unbound] at unread
        exact bare_ofDefinitions keyed present unread id other
  | star chain table excepted replaced => rfl
  | whole scope => rfl

end Names

/-! ### Fewer marks, more reports -/

theorem ofModel_marking (deletion : Deletion) (known : Model) (reached : Nat → String → Prop) :
    deletion.ofModel (known.marking reached) = (deletion.ofModel known).marking reached := by
  simp only [Deletion.ofModel, Deletion.ofDefinitions, Model.marking, List.mapIdx_mapIdx]
  congr 2
  funext id definition
  simp only [Function.comp_apply, Nat.zero_add]
  split
  · simp [Definition.withoutColumn, Definition.marking, List.eraseIdx_map]
  · rfl

theorem violates_of_marking {column : Column} {fewer more : String → Prop}
    (implied : ∀ key, fewer key → more key) (violates : (column.marking more).violates = true) :
    (column.marking fewer).violates = true := by
  simp only [Column.violates, Column.reportable, Bool.and_eq_true, Bool.not_eq_true',
    Bool.eq_false_iff, ne_eq, Column.used_marking, not_or] at violates ⊢
  exact ⟨⟨violates.1.1, fun reached => violates.1.2 (implied _ reached)⟩, violates.2⟩

theorem filter_map_sublist {α β : Type} {first second : α → β} {keep : β → Bool} {entries : List α}
    {γ : Type} {view : β → γ} (same : ∀ entry, view (first entry) = view (second entry))
    (implied : ∀ entry, keep (first entry) = true → keep (second entry) = true) :
    (((entries.map first).filter keep).map view).Sublist
      (((entries.map second).filter keep).map view) := by
  induction entries with
  | nil => exact .slnil
  | cons entry rest ih =>
    simp only [List.map_cons, List.filter_cons]
    by_cases kept : keep (first entry) = true
    · simp only [kept, implied entry kept, if_true, List.map_cons, same]
      exact ih.cons_cons _
    · rw [if_neg kept]
      split
      · exact ih.cons _
      · exact ih

theorem violations_sublist {known : Model} {fewer more : Nat → String → Prop}
    (implied : ∀ id key, fewer id key → more id key) :
    (known.marking more).violations.Sublist (known.marking fewer).violations := by
  simp only [Model.violations, Model.marking]
  generalize known.definitions = definitions
  induction definitions generalizing fewer more with
  | nil => exact .slnil
  | cons definition rest ih =>
    simp only [List.mapIdx_cons, List.flatMap_cons]
    refine List.Sublist.append ?_ (ih fun id key => implied (id + 1) key)
    exact filter_map_sublist (fun column => rfl)
      fun column => violates_of_marking (implied 0)

/-! ### Deleting the item -/

/-- A column that is reported and comes from the select item, where no star gives columns of its
name other values. -/
structure Reported (query : Query) (deletion : Deletion) {made : Made}
    (selected : SelectedItem made deletion.item) (column : Column) : Prop where
  position : (Outline.ofQuery query).made[deletion.definition]? = some made
  place : selected.column = deletion.column
  found : ((collect query).columns deletion.definition)[deletion.column]? = some column
  violates : column.violates = true
  kept : ∀ chain table excepted replaced,
    .star chain table excepted replaced ∈ (Outline.ofQuery query).sites → column.key ∉ replaced

namespace Reported

variable {query : Query} {deletion : Deletion} {made : Made}
  {selected : SelectedItem made deletion.item} {column : Column}

theorem unread (reported : Reported query deletion selected column) :
    ∀ site ∈ (Outline.ofQuery query).sites,
      ¬site.Reaches (Outline.ofQuery query).definitions deletion.definition column.key := by
  intro site member reached
  have used := ((collect_reads query).used_iff (List.mem_of_getElem? reported.found)).2
    ⟨site, member, reached⟩
  have violates := reported.violates
  simp [Column.violates, used] at violates

theorem keyed (reported : Reported query deletion selected column) :
    made.definition.columns[deletion.column]?.map Column.key = some column.key := by
  have registered := congrArg (·[deletion.definition]?) (collect_reads query).unmarked
  simp only [Outline.model, Outline.definitions, List.getElem?_map, reported.position,
    Option.map_some, Option.map_eq_some_iff] at registered
  obtain ⟨definition, existing, same⟩ := registered
  have found := reported.found
  simp only [Model.columns, existing, Option.map_some, Option.getD_some] at found
  simp only [← same, Definition.unmarked, List.getElem?_map, found, Option.map_some]
  rfl

theorem allows (reported : Reported query deletion selected column) :
    Removal.Allows ⟨deletion, column.key, selected.sites⟩ 0 (Outline.ofQuery query) where
  spared := by
    intro site member
    cases site with
    | star chain table excepted replaced =>
      intro source
      by_contra passed
      exact reported.unread _ member
        ⟨source, passed, reported.kept chain table excepted replaced member⟩
    | _ => trivial
  target := by
    intro id other entry same
    rw [Nat.zero_add] at same
    obtain rfl : made = other := Option.some.inj (reported.position.symm.trans (same ▸ entry))
    exact ⟨reported.keyed, selected, reported.place, rfl⟩

theorem outline (reported : Reported query deletion selected column) :
    (Outline.ofQuery (deletion.apply query)).definitions =
      deletion.ofDefinitions 0 (Outline.ofQuery query).definitions ∧
    ∃ before after, (Outline.ofQuery query).sites = before ++ selected.sites ++ after ∧
      (Outline.ofQuery (deletion.apply query)).sites = before ++ after := by
  let removal : Removal := ⟨deletion, column.key, selected.sites⟩
  have allowed := reported.allows
  have ready : removal.Ready 0 {} := ⟨rfl, nofun⟩
  rw [ofQuery_eq] at allowed
  have step := (Removal.ofQuery_matches [] true query 0 {} ready allowed).1
  have empty : removal.ofModel {} = {} := rfl
  rw [empty, ← ofQuery_eq, ← ofQuery_eq] at step
  have existing := (List.getElem?_eq_some_iff.1 reported.position).1
  have sites := step.sites
  rw [step.total, Removal.Loses, if_pos ⟨Nat.zero_le _, by rwa [Nat.zero_add]⟩] at sites
  exact ⟨step.definitions, sites⟩

theorem reaches (reported : Reported query deletion selected column) {site : Site}
    (member : site ∈ (Outline.ofQuery query).sites) (id : Nat) (key : String) :
    site.Reaches (Outline.ofQuery (deletion.apply query)).definitions id key ↔
      site.Reaches (Outline.ofQuery query).definitions id key := by
  have entry : (Outline.ofQuery query).definitions[deletion.definition]? = some made.definition := by
    simp only [Outline.definitions, List.getElem?_map, reported.position, Option.map_some]
  have present : HasColumn (Outline.ofQuery query).definitions deletion.definition column.key := by
    obtain ⟨deleted, member, same⟩ := Option.map_eq_some_iff.1 reported.keyed
    exact ⟨made.definition, entry, deleted, List.mem_of_getElem? member, same⟩
  rw [reported.outline.1]
  refine reaches_ofDefinitions (fun definition existing => ?_) present (reported.unread site member)
    id key
  rw [← Option.some.inj (entry.symm.trans existing)]
  exact reported.keyed

/-- The shorter statement marks what the remaining sites reach. -/
theorem definitions_collect (reported : Reported query deletion selected column)
    {sites : List Site} (remaining : (Outline.ofQuery (deletion.apply query)).sites = sites)
    (kept : ∀ site ∈ sites, site ∈ (Outline.ofQuery query).sites) :
    (collect (deletion.apply query)).definitions =
      ((deletion.ofModel (Outline.model query)).marking fun id key =>
        ∃ site ∈ sites, site.Reaches (Outline.ofQuery query).definitions id key).definitions := by
  have marks : (fun id key => ∃ site ∈ (Outline.ofQuery (deletion.apply query)).sites,
        site.Reaches (Outline.model (deletion.apply query)).definitions id key) = fun id key =>
      ∃ site ∈ sites, site.Reaches (Outline.ofQuery query).definitions id key := by
    funext id key
    rw [remaining]
    exact propext (exists_congr fun site => and_congr_right fun member =>
      reported.reaches (kept site member) id key)
  rw [(collect_reads (deletion.apply query)).marked, marks]
  simp only [Model.marking, Outline.model, reported.outline.1, Deletion.ofModel]

end Reported

/-- Deleting the select item of a column that nothing reads disturbs nothing else. The sites that
remain are those of the statement less those inside the expression of the item, and each still
reaches the same columns. Any other column is read in the statement if and only if it is read in the
shorter one or inside the deleted expression, so every other report remains. -/
theorem unused_item_deletion (query : Query) (deletion : Deletion) (made : Made)
    (selected : SelectedItem made deletion.item) (column : Column)
    (reported : Reported query deletion selected column) :
    (∃ before after, (Outline.ofQuery query).sites = before ++ selected.sites ++ after ∧
      (Outline.ofQuery (deletion.apply query)).sites = before ++ after ∧
      ∀ site ∈ before ++ after, ∀ id key,
        site.Reaches (Outline.ofQuery (deletion.apply query)).definitions id key ↔
          site.Reaches (Outline.ofQuery query).definitions id key) ∧
    (∀ id, List.Forall₂ (fun old new : Column => new.unmarked = old.unmarked ∧
        (old.used = true ↔ new.used = true ∨ ∃ site ∈ selected.sites,
          site.Reaches (Outline.ofQuery query).definitions id old.key))
      ((deletion.ofModel (collect query)).columns id) ((collect (deletion.apply query)).columns id)) ∧
    (deletion.ofModel (collect query)).violations.Sublist (analyze (deletion.apply query)) := by
  obtain ⟨-, before, after, whole, rest⟩ := reported.outline
  have member : ∀ site ∈ before ++ after, site ∈ (Outline.ofQuery query).sites := by
    intro site member
    rw [whole]
    rcases List.mem_append.1 member with member | member
    · exact List.mem_append_left _ (List.mem_append_left _ member)
    · exact List.mem_append_right _ member
  have longer := congrArg deletion.ofModel (collect_reads query).marked
  rw [ofModel_marking] at longer
  have shorter := reported.definitions_collect rest member
  have split (id : Nat) (key : String) :
      (∃ site ∈ (Outline.ofQuery query).sites,
        site.Reaches (Outline.model query).definitions id key) ↔
      (∃ site ∈ before ++ after, site.Reaches (Outline.ofQuery query).definitions id key) ∨
      ∃ site ∈ selected.sites, site.Reaches (Outline.ofQuery query).definitions id key := by
    simp only [whole, Outline.model, List.mem_append, or_and_right, exists_or]
    exact or_right_comm
  refine ⟨⟨before, after, whole, rest, fun site kept => reported.reaches (member site kept)⟩,
    fun id => ?_, ?_⟩
  · have columns := congrArg (fun definitions => Model.columns { definitions } id) shorter
    change (collect (deletion.apply query)).columns id = Model.columns (Model.marking _ _) id at columns
    rw [columns, longer, Model.columns_marking, Model.columns_marking, List.forall₂_map_left_iff,
      List.forall₂_map_right_iff, List.forall₂_same]
    intro other _
    refine ⟨rfl, ?_⟩
    rw [Column.used_marking, Column.used_marking, Column.key_marking, split, or_assoc]
  · have violations := congrArg (fun definitions => Model.violations { definitions }) shorter
    change analyze (deletion.apply query) = Model.violations (Model.marking _ _) at violations
    rw [violations, longer]
    exact violations_sublist fun id key read => (split id key).2 (.inl read)

/-! A statement whose last query leaves a column out. -/

def simpleBlock (items : List SelectItem) (source : String) : SelectBlock where
  span := {}
  distinct := false
  asKind := ""
  items
  source := some ⟨{}, .table { name := source }, []⟩
  filter := none
  groupBy := []
  having := none
  windows := []
  qualify := none
  orderBy := []
  orderByPosition := default
  limit := none
  offset := none
  extensions := []

def renamingBlock : SelectBlock :=
  simpleBlock [.expr {} (.column { column := "z" }) "p" {}, .expr {} (.column { column := "y" }) "q" {}]
    "b"

/-- `WITH b AS (SELECT x AS y FROM t), a AS (SELECT z AS p, y AS q FROM b)
SELECT * EXCEPT (q) FROM a`. -/
def starredQuery : Query :=
  let source := simpleBlock [.expr {} (.column { column := "x" }) "y" {}] "t"
  let named (name : String) (block : SelectBlock) : Cte :=
    ⟨{}, name, {}, [], some ⟨{}, none, .single {} (.block block)⟩⟩
  ⟨{}, some ⟨{}, false, [named "b" source, named "a" renamingBlock]⟩,
    .single {} (.block (simpleBlock [.star {} [.except ["q"]]] "a"))⟩

def renamingMade : Made where
  definition := { name := "a", columns := [{ name := "p" }, { name := "q" }] }
  cte := ⟨{}, "a", {}, [], some ⟨{}, none, .single {} (.block renamingBlock)⟩⟩
  known := { definitions := [{ name := "b", columns := [{ name := "y" }] }], latest := [("b", 0)] }

theorem plain_column (ref : ColumnRef) : Plain (.expr (.column ref)) := by
  intro below lower
  unfold Node.descendants Node.walk at lower
  simp [Node.children, Expr.children] at lower
  simp [lower]

/-- The item `y AS q`. -/
def renamedItem : SelectedItem renamingMade 1 where
  querySpan := {}
  definitions := none
  bodySpan := {}
  block := renamingBlock
  itemSpan := {}
  expr := .column { column := "y" }
  aliasName := "q"
  aliasSpan := {}
  single := rfl
  selected := rfl
  named := .inl (by decide)
  plain := plain_column _

theorem renamedItem_reported : Reported starredQuery ⟨1, 1, 1⟩ renamedItem { name := "q" } where
  position := by cbv
  place := by cbv
  found := by cbv
  violates := rfl
  kept := by
    intro chain table excepted replaced member
    have sites : (Outline.ofQuery starredQuery).sites =
        [.reference [[⟨"t", none⟩]] { column := "x" }, .reference [[⟨"b", some 0⟩]] { column := "z" },
          .reference [[⟨"b", some 0⟩]] { column := "y" }, .star [[⟨"a", some 1⟩]] "" ["q"] []] := by
      cbv
    rw [sites] at member
    simp at member
    simp [member]

/-- Deleting the item takes the last reading of another column away, which is then reported. -/
theorem starredQuery_deletion :
    analyze starredQuery = [⟨"a", "q", {}⟩] ∧
    (Deletion.ofModel ⟨1, 1, 1⟩ (collect starredQuery)).violations.Sublist
      (analyze (Deletion.apply ⟨1, 1, 1⟩ starredQuery)) ∧
    analyze (Deletion.apply ⟨1, 1, 1⟩ starredQuery) = [⟨"b", "y", {}⟩] :=
  ⟨by cbv, (unused_item_deletion starredQuery ⟨1, 1, 1⟩ renamingMade renamedItem { name := "q" }
    renamedItem_reported).2.2, by cbv⟩

end QueryLint.Usage
