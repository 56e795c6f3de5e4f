import QueryLint.Proofs.Usage.Deletion
import QueryLint.Proofs.Usage.Plain
import QueryLint.Proofs.Usage.Reading

/-!
The outline of a statement without one of its select items. If no star passes the column of the
item on, the outline of the shorter statement is that of the longer one less the column and less
the sites inside the deleted expression: every other definition and every other site stays as it
was, at its place (`Removal.Step`).
-/

namespace QueryLint.Usage

/-! ### What is deleted -/

def Definition.withoutColumn (definition : Definition) (column : Nat) : Definition :=
  { definition with columns := definition.columns.eraseIdx column }

/-- A select item of a definition whose query is a single block: a plain expression with an alias
or a name of its own. -/
structure SelectedItem (made : Made) (item : Nat) where
  querySpan : Span
  definitions : Option WithClause
  bodySpan : Span
  block : SelectBlock
  itemSpan : Span
  expr : Expr
  aliasName : String
  aliasSpan : Span
  single : made.cte.query = some ⟨querySpan, definitions, .single bodySpan (.block block)⟩
  selected : block.items[item]? = some (.expr itemSpan expr aliasName aliasSpan)
  named : aliasName.isEmpty = false ∨ (implicitName expr).isEmpty = false
  plain : Plain (.expr expr)

namespace SelectedItem

variable {made : Made} {item : Nat} (selected : SelectedItem made item)

def query : Query :=
  ⟨selected.querySpan, selected.definitions, .single selected.bodySpan (.block selected.block)⟩

def shorter : Query :=
  ⟨selected.querySpan, selected.definitions, .single selected.bodySpan
    (.block (selected.block.withItems (selected.block.items.eraseIdx item)))⟩

def inside : Model := (outlineWith selected.definitions made.known).2

def earlier : Outline × List Column :=
  outlineBlock [] false (selected.block.withItems (selected.block.items.take item)) selected.inside

def column : Nat := selected.earlier.2.length

def scope : Scope := (outlineFrom [] selected.block.source selected.inside).2

def sites : List Site :=
  (outlineNode [selected.scope] (.expr selected.expr)
    (selected.inside.after selected.earlier.1)).sites

end SelectedItem

/-- A deletion with the folded name of the column and the sites inside the expression. -/
structure Removal extends Deletion where
  key : String
  sites : List Site

/-! ### Definitions without the column -/

namespace Deletion

/-- The definitions after the deletion, the first of which has the given place in the statement. -/
def ofDefinitions (deletion : Deletion) (start : Nat) (definitions : List Definition) :
    List Definition :=
  definitions.mapIdx fun place definition =>
    if start + place = deletion.definition then definition.withoutColumn deletion.column
    else definition

def ofModel (deletion : Deletion) (known : Model) : Model :=
  { known with definitions := deletion.ofDefinitions 0 known.definitions }

variable (deletion : Deletion)

@[simp] theorem ofDefinitions_nil (start : Nat) : deletion.ofDefinitions start [] = [] := rfl

@[simp] theorem length_ofDefinitions (start : Nat) (definitions : List Definition) :
    (deletion.ofDefinitions start definitions).length = definitions.length :=
  List.length_mapIdx

theorem ofDefinitions_append (start : Nat) (first second : List Definition) :
    deletion.ofDefinitions start (first ++ second) =
      deletion.ofDefinitions start first ++ deletion.ofDefinitions (start + first.length) second := by
  simp only [ofDefinitions, List.mapIdx_append]
  congr 2
  funext place definition
  rw [Nat.add_comm place, Nat.add_assoc]

theorem ofDefinitions_eq_self (start : Nat) (definitions : List Definition)
    (outside : ∀ place < definitions.length, start + place ≠ deletion.definition) :
    deletion.ofDefinitions start definitions = definitions := by
  apply List.ext_getElem?
  intro place
  simp only [ofDefinitions, List.getElem?_mapIdx]
  cases found : definitions[place]? with
  | none => rfl
  | some definition =>
    have existing := (List.getElem?_eq_some_iff.1 found).1
    simp only [Option.map_some, outside place existing, if_false]

@[simp] theorem latest_ofModel (known : Model) : (deletion.ofModel known).latest = known.latest := rfl

@[simp] theorem length_ofModel (known : Model) :
    (deletion.ofModel known).definitions.length = known.definitions.length :=
  deletion.length_ofDefinitions 0 known.definitions

theorem lookup_ofModel (known : Model) (name : String) :
    (deletion.ofModel known).lookup name = known.lookup name := rfl

theorem ofModel_eq_self {known : Model} (later : known.definitions.length ≤ deletion.definition) :
    deletion.ofModel known = known := by
  have same : deletion.ofDefinitions 0 known.definitions = known.definitions :=
    deletion.ofDefinitions_eq_self 0 _ fun place existing => by omega
  simp only [ofModel, same]

theorem columns_ofModel (known : Model) (id : Nat) :
    (deletion.ofModel known).columns id =
      if id = deletion.definition then (known.columns id).eraseIdx deletion.column
      else known.columns id := by
  simp only [Model.columns, ofModel, ofDefinitions, List.getElem?_mapIdx, Nat.zero_add]
  cases known.definitions[id]? with
  | none => split <;> simp
  | some definition => split <;> simp [Definition.withoutColumn]

theorem ofModel_register (known : Model) (definition : Definition) :
    (deletion.ofModel known).register
      (if known.definitions.length = deletion.definition then definition.withoutColumn deletion.column
        else definition) = deletion.ofModel (known.register definition) := by
  have name : Definition.name (if known.definitions.length = deletion.definition then
      definition.withoutColumn deletion.column else definition) = definition.name := by
    split <;> rfl
  simp only [Model.register, name, length_ofModel, latest_ofModel]
  simp [ofModel, ofDefinitions]

end Deletion

/-! ### Parts of a statement with and without the item -/

/-- The site is no star that passes the column on. -/
def Site.Spares (site : Site) (id : Nat) (key : String) : Prop :=
  match site with
  | .star chain table excepted _ => id ∈ Model.starSources chain table → key ∈ excepted
  | _ => True

namespace Removal

structure Target (removal : Removal) (made : Made) : Prop where
  keyed : made.definition.columns[removal.column]?.map Column.key = some removal.key
  item : ∃ selected : SelectedItem made removal.item,
    selected.column = removal.column ∧ selected.sites = removal.sites

/-- What the removal asks of a part of a statement with some number of definitions before it. -/
structure Allows (removal : Removal) (count : Nat) (outline : Outline) : Prop where
  spared : ∀ site ∈ outline.sites, site.Spares removal.definition removal.key
  target : ∀ place made, outline.made[place]? = some made →
    count + place = removal.definition → removal.Target made

/-- The sites of a part that makes the definitions from `count` up to `next`. -/
def Loses (removal : Removal) (count next : Nat) (whole rest : List Site) : Prop :=
  if count ≤ removal.definition ∧ removal.definition < next then
    ∃ before after, whole = before ++ removal.sites ++ after ∧ rest = before ++ after
  else rest = whole

/-- The outlines of a part with and without the item, and the number of definitions after it. -/
structure Step (removal : Removal) (count : Nat) (whole rest : Outline) (next : Nat) : Prop where
  total : next = count + whole.made.length
  definitions : rest.definitions = removal.ofDefinitions count whole.definitions
  sites : removal.Loses count next whole.sites rest.sites

/-- What is known before a part. -/
structure Ready (removal : Removal) (count : Nat) (known : Model) : Prop where
  count : known.definitions.length = count
  keyed : ∀ definition, known.definitions[removal.definition]? = some definition →
    definition.columns[removal.column]?.map Column.key = some removal.key

variable {removal : Removal} {count middle next : Nat}

theorem allows_append {first second : Outline} :
    removal.Allows count (first ++ second) ↔
      removal.Allows count first ∧ removal.Allows (count + first.made.length) second := by
  constructor
  · intro allowed
    refine ⟨⟨fun site member => ?_, fun place made found same => ?_⟩,
      ⟨fun site member => ?_, fun place made found same => ?_⟩⟩
    · exact allowed.spared site (List.mem_append_left _ member)
    · apply allowed.target place made _ same
      rw [Outline.made_append, List.getElem?_append_left (List.getElem?_eq_some_iff.1 found).1, found]
    · exact allowed.spared site (List.mem_append_right _ member)
    · apply allowed.target (first.made.length + place) made _ (by omega)
      rw [Outline.made_append, List.getElem?_append_right (by omega), Nat.add_sub_cancel_left, found]
  · rintro ⟨left, right⟩
    refine ⟨fun site member => ?_, fun place made found same => ?_⟩
    · rcases List.mem_append.1 member with member | member
      · exact left.spared site member
      · exact right.spared site member
    · rw [Outline.made_append, List.getElem?_append] at found
      split at found
      · exact left.target place made found same
      · exact right.target _ made found (by omega)

theorem Step.next_le {whole rest : Outline} (step : removal.Step count whole rest next) :
    count ≤ next := by
  have := step.total
  omega

theorem Step.append {first first' second second' : Outline}
    (head : removal.Step count first first' middle) (tail : removal.Step middle second second' next) :
    removal.Step count (first ++ second) (first' ++ second') next where
  total := by
    rw [tail.total, head.total, Outline.made_append, List.length_append, Nat.add_assoc]
  definitions := by
    have length : first.definitions.length = first.made.length := List.length_map _
    rw [Outline.definitions_append, Outline.definitions_append, removal.ofDefinitions_append,
      head.definitions, tail.definitions, head.total, length]
  sites := by
    have le := head.next_le
    have le' := tail.next_le
    have left := head.sites
    have right := tail.sites
    simp only [Loses, Outline.sites_append] at left right ⊢
    by_cases early : removal.definition < middle
    · rw [if_neg (by omega)] at right
      split at left
      · obtain ⟨before, after, whole, rest⟩ := left
        rw [if_pos (by omega)]
        exact ⟨before, after ++ second.sites, by simp [whole], by simp [rest, right]⟩
      · rw [if_neg (by omega), left, right]
    · rw [if_neg (by omega)] at left
      split at right
      · obtain ⟨before, after, whole, rest⟩ := right
        rw [if_pos (by omega)]
        exact ⟨first.sites ++ before, after, by simp [whole], by simp [left, rest]⟩
      · rw [if_neg (by omega), left, right]

theorem Step.readAll (count : Nat) (sites : List Site) :
    removal.Step count (.readAll sites) (.readAll sites) count where
  total := rfl
  definitions := rfl
  sites := by
    simp only [Loses, if_neg (show ¬(count ≤ removal.definition ∧ removal.definition < count) by omega)]

theorem Step.empty (count : Nat) : removal.Step count {} {} count := Step.readAll count []

theorem Ready.after {known : Model} {whole rest : Outline} (ready : removal.Ready count known)
    (allowed : removal.Allows count whole) (step : removal.Step count whole rest next) :
    removal.Ready next (known.after whole) where
  count := by
    rw [Model.definitions_after, List.length_append, ready.count, step.total]
    simp [Outline.definitions]
  keyed := by
    intro definition found
    rw [Model.definitions_after, List.getElem?_append] at found
    split at found
    · exact ready.keyed definition found
    · simp only [Outline.definitions, List.getElem?_map, Option.map_eq_some_iff] at found
      obtain ⟨made, found, rfl⟩ := found
      have late := ready.count
      exact (allowed.target _ made found (by omega)).keyed

theorem Ready.ofModel_after {known : Model} {whole rest : Outline}
    (ready : removal.Ready count known) (step : removal.Step count whole rest next) :
    (removal.ofModel known).after rest = removal.ofModel (known.after whole) := by
  simp only [Model.after, Deletion.ofModel, removal.ofDefinitions_append, step.definitions,
    Nat.zero_add, ready.count]

end Removal

end QueryLint.Usage
