import QueryLint.Proofs.Usage.Removal

/-!
Visiting a statement and the statement without the select item side by side. Every part of the two
trees makes the same definitions and reads at the same sites, except where the item was.
-/

namespace QueryLint.Usage

/-! ### The shorter tree -/

namespace Deletion

theorem bind_apply {α β : Type} (first : Counting α) (second : α → Counting β) (count : Nat) :
    (first >>= second) count = second (first count).1 (first count).2 := rfl

theorem pure_apply {α : Type} (value : α) (count : Nat) :
    (pure value : Counting α) count = (value, count) := rfl

theorem modify_apply (change : Nat → Nat) (count : Nat) :
    (modify change : Counting PUnit) count = (⟨⟩, change count) := rfl

variable (deletion : Deletion)

theorem ofCtes_some (span : Span) (name : String) (nameSpan : Span) (names : List String)
    (query : Query) (rest : List Cte) (count : Nat) :
    deletion.ofCtes (⟨span, name, nameSpan, names, some query⟩ :: rest) count =
      ((if (deletion.ofQuery false query count).2 = deletion.definition then
          deletion.ofCte ⟨span, name, nameSpan, names, some query⟩
        else ⟨span, name, nameSpan, names, some (deletion.ofQuery false query count).1⟩) ::
          (deletion.ofCtes rest ((deletion.ofQuery false query count).2 + 1)).1,
        (deletion.ofCtes rest ((deletion.ofQuery false query count).2 + 1)).2) := by
  rw [ofCtes]
  rfl

theorem defineColumn_ofExpr (expr : Expr) (aliasName : String) (anonymous count : Nat) :
    defineColumn (deletion.ofExpr expr count).1 aliasName anonymous =
      defineColumn expr aliasName anonymous := by
  have span : (deletion.ofExpr expr count).1.span = expr.span := by
    cases expr <;> simp only [ofExpr, bind_apply, pure_apply, Expr.span]
  have name : implicitName (deletion.ofExpr expr count).1 = implicitName expr := by
    cases expr <;> simp only [ofExpr, bind_apply, pure_apply, implicitName]
  simp only [defineColumn, span, name]

theorem names_ofNamed (items : List NamedExpr) (count : Nat) :
    (deletion.ofNamed items count).1.map (·.name) = items.map (·.name) := by
  induction items generalizing count with
  | nil => simp only [ofNamed, pure_apply]
  | cons item rest ih =>
    obtain ⟨expr, name⟩ := item
    simp only [ofNamed, bind_apply, pure_apply, List.map_cons, ih]

theorem excepted_ofModifiers (modifiers : List StarModifier) (count : Nat) :
    Model.excepted (deletion.ofModifiers modifiers count).1 = Model.excepted modifiers := by
  induction modifiers generalizing count with
  | nil => simp only [ofModifiers, pure_apply]
  | cons modifier rest ih =>
    simp only [Model.excepted] at ih ⊢
    cases modifier <;> simp only [ofModifiers, bind_apply, pure_apply, List.flatMap_cons, ih]

theorem replaced_ofModifiers (modifiers : List StarModifier) (count : Nat) :
    Model.replaced (deletion.ofModifiers modifiers count).1 = Model.replaced modifiers := by
  induction modifiers generalizing count with
  | nil => simp only [ofModifiers, pure_apply]
  | cons modifier rest ih =>
    simp only [Model.replaced] at ih ⊢
    cases modifier with
    | except columns => simp only [ofModifiers, bind_apply, pure_apply, List.flatMap_cons, ih]
    | replace items =>
      have names := congrArg (List.map Text.fold) (deletion.names_ofNamed items count)
      simp only [List.map_map, Function.comp_def] at names
      simp only [ofModifiers, bind_apply, pure_apply, List.flatMap_cons, ih, names]

end Deletion

theorem Outline.append_empty (outline : Outline) : outline ++ ({} : Outline) = outline := by
  cases outline
  simp only [HAppend.hAppend, Append.append]
  simp

theorem Outline.empty_append (outline : Outline) : ({} : Outline) ++ outline = outline := rfl

theorem Outline.append_assoc (first second third : Outline) :
    first ++ second ++ third = first ++ (second ++ third) := by
  simp only [HAppend.hAppend, Append.append]
  simp

theorem Outline.sequence_append {α : Type} (part : α → Model → Outline) (first second : List α)
    (known : Model) :
    Outline.sequence part (first ++ second) known =
      Outline.sequence part first known ++
        Outline.sequence part second (known.after (Outline.sequence part first known)) := by
  induction first generalizing known with
  | nil => simp only [List.nil_append, Outline.sequence, Model.after_empty, Outline.empty_append]
  | cons entry rest ih =>
    simp only [List.cons_append, Outline.sequence, ih, Model.after_append, Outline.append_assoc]

def composite : Expr → Bool
  | .column _ | .subquery .. => false
  | _ => true

theorem sequence_present {expr : Expr} (inner : composite expr = true) (chain : ScopeChain)
    (known : Model) :
    Outline.sequence (outlineNode chain) expr.present known =
      Outline.sequence (outlineNode chain) expr.children known := by
  have inner : outlineNode chain (.expr expr) known =
      Outline.sequence (outlineNode chain) expr.children known := by
    apply outlineNode_children
    · rintro ref ⟨⟩
      simp [composite] at inner
    · rintro span query array ⟨⟩
      simp [composite] at inner
    · nofun
  cases expr with
  | missing => rfl
  | _ => simp only [Expr.present, Outline.sequence, Outline.append_empty, inner]

theorem outlineNode_expr (chain : ScopeChain) (expr : Expr) (known : Model) :
    outlineNode chain (.expr expr) known =
      Outline.sequence (outlineNode chain) expr.present known := by
  cases expr with
  | missing => exact outlineNode_children nofun nofun nofun
  | _ => simp only [Expr.present, Outline.sequence, Outline.append_empty]

/-! ### Lists of nodes -/

namespace Removal

/-- Nodes with and without the item, read one after the other. -/
def Follows (removal : Removal) (count : Nat) (nodes nodes' : List Node) (next : Nat) : Prop :=
  ∀ chain known, removal.Ready count known →
    removal.Allows count (Outline.sequence (outlineNode chain) nodes known) →
    removal.Step count (Outline.sequence (outlineNode chain) nodes known)
      (Outline.sequence (outlineNode chain) nodes' (removal.ofModel known)) next

/-- A part that gives something besides its outline, with and without the item. -/
def Matches {α : Type} (removal : Removal) (count : Nat) (part part' : Model → Outline × α)
    (next : Nat) : Prop :=
  ∀ known, removal.Ready count known → removal.Allows count (part known).1 →
    removal.Step count (part known).1 (part' (removal.ofModel known)).1 next ∧
      (part' (removal.ofModel known)).2 = (part known).2

variable {removal : Removal} {count middle next : Nat}

theorem Follows.nil (count : Nat) : removal.Follows count [] [] count :=
  fun _ _ _ _ => Step.empty count

theorem Follows.append {first first' second second' : List Node}
    (head : removal.Follows count first first' middle)
    (tail : removal.Follows middle second second' next) :
    removal.Follows count (first ++ second) (first' ++ second') next := by
  intro chain known ready allowed
  rw [Outline.sequence_append, allows_append] at allowed
  have left := head chain known ready allowed.1
  have right := tail chain _ (ready.after allowed.1 left) (left.total ▸ allowed.2)
  rw [Outline.sequence_append, Outline.sequence_append, ready.ofModel_after left]
  exact left.append right

theorem Follows.children {expr expr' : Expr} (inner : composite expr = true)
    (inner' : composite expr' = true)
    (below : removal.Follows count expr.children expr'.children next) :
    removal.Follows count expr.present expr'.present next := by
  intro chain known ready allowed
  rw [sequence_present inner] at allowed ⊢
  rw [sequence_present inner']
  exact below chain known ready allowed

theorem Follows.columns (columns : List ColumnRef) (count : Nat) :
    removal.Follows count (columnNodes columns) (columnNodes columns) count := by
  induction columns with
  | nil => exact Follows.nil count
  | cons ref rest ih =>
    have head : removal.Follows count [.expr (.column ref)] [.expr (.column ref)] count := by
      intro chain known ready allowed
      simp only [Outline.sequence, outlineNode, Outline.append_empty]
      exact Step.readAll count _
    exact head.append ih

theorem Follows.query {query query' : Query}
    (inner : ∀ chain, removal.Matches count (outlineQuery chain false query)
      (outlineQuery chain false query') next) :
    removal.Follows count [.query query] [.query query'] next := by
  intro chain known ready allowed
  simp only [Outline.sequence, outlineNode, Outline.append_empty] at allowed ⊢
  exact (inner chain known ready allowed).1

theorem Follows.window {window window' : WindowSpec}
    (below : removal.Follows count window.children window'.children next) :
    removal.Follows count [.window window] [.window window'] next := by
  have inner (window : WindowSpec) (chain : ScopeChain) (known : Model) :
      outlineNode chain (.window window) known =
        Outline.sequence (outlineNode chain) window.children known :=
    outlineNode_children nofun nofun nofun
  intro chain known ready allowed
  simp only [Outline.sequence, inner, Outline.append_empty] at allowed ⊢
  exact below chain known ready allowed

/-! ### The block of the definition -/

end Removal

theorem outlineItems_append (chain : ScopeChain) (first : List SelectItem) (anonymous : Nat) :
    ∃ further, ∀ second known,
      outlineItems chain (first ++ second) anonymous known =
        ((outlineItems chain first anonymous known).1 ++ (outlineItems chain second further
            (known.after (outlineItems chain first anonymous known).1)).1,
          (outlineItems chain first anonymous known).2 ++ (outlineItems chain second further
            (known.after (outlineItems chain first anonymous known).1)).2) := by
  induction first generalizing anonymous with
  | nil => exact ⟨anonymous, fun second known => by simp [outlineItems, Outline.empty_append]⟩
  | cons item rest ih =>
    cases item with
    | star span modifiers =>
      obtain ⟨further, same⟩ := ih anonymous
      refine ⟨further, fun second known => ?_⟩
      simp only [List.cons_append, outlineItems, same, Model.after_append, Outline.append_assoc,
        List.append_assoc]
    | tableStar span table modifiers =>
      obtain ⟨further, same⟩ := ih anonymous
      refine ⟨further, fun second known => ?_⟩
      simp only [List.cons_append, outlineItems, same, Model.after_append, Outline.append_assoc,
        List.append_assoc]
    | expr span expr aliasName aliasSpan =>
      obtain ⟨further, same⟩ :=
        ih (if (defineColumn expr aliasName anonymous).2 then anonymous + 1 else anonymous)
      refine ⟨further, fun second known => ?_⟩
      simp only [List.cons_append, outlineItems, same, Model.after_append, Outline.append_assoc]

theorem renameColumns_eraseIdx (columns : List Column) (names : List String) (place : Nat) :
    renameColumns (columns.eraseIdx place) (names.eraseIdx place) =
      (renameColumns columns names).eraseIdx place := by
  induction columns generalizing names place with
  | nil => simp [renameColumns]
  | cons column rest ih =>
    cases names with
    | nil => simp [renameColumns]
    | cons name names =>
      cases place with
      | zero => simp [renameColumns]
      | succ place => simp [renameColumns, ih]

theorem defineColumn_named {expr : Expr} {aliasName : String}
    (named : aliasName.isEmpty = false ∨ (implicitName expr).isEmpty = false) (anonymous : Nat) :
    (defineColumn expr aliasName anonymous).2 = false := by
  unfold defineColumn
  rcases named with named | named
  · simp [named]
  · split_ifs <;> simp_all

theorem withItems_self (block : SelectBlock) : block.withItems block.items = block := by
  cases block
  rfl

def outlineHead (chain : ScopeChain) (final : Bool) (block : SelectBlock) (known : Model) : Outline :=
  let (sources, scope) := outlineFrom chain block.source known
  sources ++ Outline.sequence (outlineNode (scope :: chain))
    (clauseNodes block (final || block.hasLimit)) (known.after sources)

theorem outlineBlock_items (chain : ScopeChain) (final : Bool) (block : SelectBlock)
    (items : List SelectItem) (known : Model) :
    outlineBlock chain final (block.withItems items) known =
      let rest := outlineItems ((outlineFrom chain block.source known).2 :: chain) items 0
        (known.after (outlineHead chain final block known))
      (outlineHead chain final block known ++ rest.1, rest.2) := by
  rw [outlineBlock_eq, outlineHead]
  simp only [Model.after_append]
  rfl

namespace SelectedItem

variable {made : Made} {item : Nat} (selected : SelectedItem made item)

/-- The outline of the query with and without the item differs only in the item. -/
theorem outline_shorter : ∃ later column further,
    outlineQuery [] false selected.query made.known =
      ((outlineWith selected.definitions made.known).1 ++
        (selected.earlier.1 ++ (.readAll selected.sites ++ later)),
        selected.earlier.2 ++ column :: further) ∧
    outlineQuery [] false selected.shorter made.known =
      ((outlineWith selected.definitions made.known).1 ++ (selected.earlier.1 ++ later),
        selected.earlier.2 ++ further) := by
  obtain ⟨count, same⟩ := outlineItems_append [selected.scope] (selected.block.items.take item) 0
  have shape : selected.block.items = selected.block.items.take item ++
      .expr selected.itemSpan selected.expr selected.aliasName selected.aliasSpan ::
        selected.block.items.drop (item + 1) := by
    obtain ⟨existing, entry⟩ := List.getElem?_eq_some_iff.1 selected.selected
    rw [← entry, ← List.drop_eq_getElem_cons, List.take_append_drop]
  have nothing : outlineNode [selected.scope] (.expr selected.expr)
      (selected.inside.after selected.earlier.1) = .readAll selected.sites := by
    have made := outlineNode_made [selected.scope] (.expr selected.expr)
      (selected.inside.after selected.earlier.1) selected.plain
    simp only [Outline.readAll, SelectedItem.sites, ← made]
  have inside : (outlineWith selected.definitions made.known).2 = selected.inside := rfl
  have unnamed := defineColumn_named selected.named count
  have block (rest : List SelectItem) :
      outlineBlock [] false (selected.block.withItems (selected.block.items.take item ++ rest))
          selected.inside =
        (selected.earlier.1 ++ (outlineItems [selected.scope] rest count
            (selected.inside.after selected.earlier.1)).1,
          selected.earlier.2 ++ (outlineItems [selected.scope] rest count
            (selected.inside.after selected.earlier.1)).2) := by
    rw [SelectedItem.earlier, outlineBlock_items, outlineBlock_items]
    simp only [Model.after_append, Outline.append_assoc]
    rw [← SelectedItem.scope, same]
  let later := outlineItems [selected.scope] (selected.block.items.drop (item + 1)) count
    (selected.inside.after selected.earlier.1)
  refine ⟨later.1, (defineColumn selected.expr selected.aliasName count).1, later.2, ?_, ?_⟩
  · have whole := block (.expr selected.itemSpan selected.expr selected.aliasName selected.aliasSpan ::
      selected.block.items.drop (item + 1))
    rw [← shape, withItems_self] at whole
    simp only [outlineItems, nothing, unnamed, Model.after_readAll, Bool.false_eq_true,
      if_false] at whole
    simp only [SelectedItem.query, outlineQuery, outlineBody, inside, whole, later]
  · have rest := block (selected.block.items.drop (item + 1))
    rw [← List.eraseIdx_eq_take_drop_succ] at rest
    simp only [SelectedItem.shorter, outlineQuery, outlineBody, inside, rest, later]

end SelectedItem

namespace Removal

variable {removal : Removal} {count middle next : Nat}

theorem Step.define {definition : Definition} {cte cte' : Cte} {known known' : Model}
    (other : count ≠ removal.definition) :
    removal.Step count { made := [⟨definition, cte, known⟩] } { made := [⟨definition, cte', known'⟩] }
      (count + 1) where
  total := rfl
  definitions := (removal.ofDefinitions_eq_self count _ (by simpa [Outline.definitions] using other)).symm
  sites := by
    unfold Loses
    rw [if_neg (by omega)]

/-- The definition that loses its column, with the definitions inside it. -/
theorem Step.target {made : Made} (target : removal.Target made) {span : Span} {name : String}
    {nameSpan : Span} {names : List String} {query : Query}
    (cte : made.cte = ⟨span, name, nameSpan, names, some query⟩)
    (place : count + (outlineQuery [] false query made.known).1.made.length = removal.definition) :
    ∃ shorter, removal.ofCte ⟨span, name, nameSpan, names, some query⟩ =
        ⟨span, name, nameSpan, names.eraseIdx removal.column, some shorter⟩ ∧
      renameColumns (outlineQuery [] false shorter made.known).2 (names.eraseIdx removal.column) =
        (renameColumns (outlineQuery [] false query made.known).2 names).eraseIdx removal.column ∧
      ∀ definition other, removal.Step count
        ((outlineQuery [] false query made.known).1 ++
          { made := [⟨definition, made.cte, made.known⟩] })
        ((outlineQuery [] false shorter made.known).1 ++
          { made := [⟨definition.withoutColumn removal.column, other, made.known⟩] })
        (removal.definition + 1) := by
  obtain ⟨selected, column, sites⟩ := target.item
  have shape : query = selected.query := by
    have single := selected.single
    rw [cte] at single
    exact Option.some.inj single
  obtain ⟨later, entry, further, whole, rest⟩ := selected.outline_shorter
  rw [← shape, sites] at whole
  refine ⟨selected.shorter, ?_, ?_, ?_⟩
  · rw [shape]
    rfl
  · have erased : selected.earlier.2 ++ further =
        (selected.earlier.2 ++ entry :: further).eraseIdx removal.column := by
      rw [← column, SelectedItem.column]
      simp [List.eraseIdx_append_of_length_le]
    rw [whole, rest, erased, renameColumns_eraseIdx]
  · intro definition other
    rw [whole] at place ⊢
    rw [rest]
    simp only [Outline.made_append, Outline.made_readAll, List.nil_append, List.length_append] at place
    refine ⟨?_, ?_, ?_⟩
    · simp only [Outline.made_append, Outline.made_readAll, List.nil_append, List.length_append,
        List.length_singleton]
      omega
    · have inner := removal.ofDefinitions_eq_self count
        ((outlineWith selected.definitions made.known).1 ++
          (selected.earlier.1 ++ later)).definitions (by
          intro index existing
          simp only [Outline.definitions, Outline.made_append, List.length_map,
            List.length_append] at existing
          omega)
      have own : removal.ofDefinitions removal.definition [definition] =
          [definition.withoutColumn removal.column] := by
        simp [Deletion.ofDefinitions]
      have length : count + ((outlineWith selected.definitions made.known).1 ++
          (selected.earlier.1 ++ later)).definitions.length = removal.definition := by
        simpa only [Outline.definitions, Outline.made_append, List.length_map,
          List.length_append] using place
      simp only [Outline.definitions_append, Outline.definitions_readAll, List.nil_append]
        at inner length ⊢
      rw [removal.ofDefinitions_append, inner, length]
      exact congrArg _ own.symm
    · unfold Loses
      rw [if_pos (by omega)]
      refine ⟨(outlineWith selected.definitions made.known).1.sites ++ selected.earlier.1.sites,
        later.sites, ?_, ?_⟩
      · simp
      · simp

theorem filter_eraseIdx {α : Type} {selected : α → Bool} {entries : List α} {place : Nat}
    (refused : ∀ entry, entries[place]? = some entry → selected entry = false) :
    (entries.eraseIdx place).filter selected = entries.filter selected := by
  induction entries generalizing place with
  | nil => rfl
  | cons first rest ih =>
    cases place with
    | zero => simp [refused first rfl]
    | succ place =>
      have later : (rest.eraseIdx place).filter selected = rest.filter selected :=
        ih (by simpa using refused)
      simp only [List.eraseIdx_cons_succ, List.filter_cons, later]

/-- A star that leaves the column out passes the same columns on. -/
theorem passedOn_ofModel {known : Model} (ready : removal.Ready count known) {chain : ScopeChain}
    {table : String} (span : Span) {modifiers : List StarModifier}
    (spared : removal.definition ∈ Model.starSources chain table →
      removal.key ∈ Model.excepted modifiers) :
    (removal.ofModel known).passedOn chain table span modifiers =
      known.passedOn chain table span modifiers := by
  unfold Model.passedOn
  refine List.flatMap_congr fun id source => ?_
  rw [removal.columns_ofModel]
  split
  · next same =>
    subst same
    congr 1
    apply filter_eraseIdx
    intro column found
    have keyed : column.key = removal.key := by
      simp only [Model.columns] at found
      cases known : known.definitions[removal.definition]? with
      | none => simp [known] at found
      | some definition =>
        have keyed := ready.keyed definition known
        simp only [known, Option.map_some, Option.getD_some] at found
        simpa [found] using keyed
    simp [keyed, spared source]
  · rfl

theorem Matches.block {chain : ScopeChain} {final : Bool} {block block' : SelectBlock} {first : Nat}
    (sources : removal.Matches count (outlineFrom chain block.source)
      (outlineFrom chain block'.source) first)
    (clauses : removal.Follows first (clauseNodes block (final || block.hasLimit))
      (clauseNodes block' (final || block'.hasLimit)) middle)
    (items : ∀ scope, removal.Matches middle (outlineItems (scope :: chain) block.items 0)
      (outlineItems (scope :: chain) block'.items 0) next) :
    removal.Matches count (outlineBlock chain final block) (outlineBlock chain final block') next := by
  intro known ready allowed
  simp only [outlineBlock_eq, allows_append] at allowed
  obtain ⟨⟨allowedSource, allowedClauses⟩, allowedItems⟩ := allowed
  obtain ⟨head, scope⟩ := sources known ready allowedSource
  have bound := ready.after allowedSource head
  have clause := clauses _ _ bound (head.total ▸ allowedClauses)
  have both := head.append clause
  obtain ⟨tail, columns⟩ := items _ _ (bound.after (head.total ▸ allowedClauses) clause)
    (both.total ▸ allowedItems)
  simp only [outlineBlock_eq, scope, ready.ofModel_after head, bound.ofModel_after clause]
  exact ⟨both.append tail, columns⟩

theorem Ready.congr {known known' : Model} (ready : removal.Ready count known)
    (same : known.definitions = known'.definitions) : removal.Ready count known' where
  count := same ▸ ready.count
  keyed := same ▸ ready.keyed

theorem Ready.ofModel_register {known : Model} {inner inner' : Outline} {made made' : Made}
    (ready : removal.Ready count known)
    (step : removal.Step count (inner ++ { made := [made] }) (inner' ++ { made := [made'] }) next)
    (name : made'.definition.name = made.definition.name) :
    ((removal.ofModel known).after inner').register made'.definition =
      removal.ofModel ((known.after inner).register made.definition) := by
  have same := congrArg Model.definitions (ready.ofModel_after step)
  have length := congrArg List.length same
  simp only [Model.after_append, Model.definitions_after, Outline.definitions, List.length_append,
    List.map_cons, List.map_nil, Deletion.length_ofModel, List.length_map,
    List.length_singleton] at length
  have definitions : (((removal.ofModel known).after inner').register made'.definition).definitions =
      (removal.ofModel ((known.after inner).register made.definition)).definitions := by
    rw [Model.after_append, Model.after_append] at same
    exact same
  have latest : (((removal.ofModel known).after inner').register made'.definition).latest =
      (removal.ofModel ((known.after inner).register made.definition)).latest := by
    have place : ((removal.ofModel known).after inner').definitions.length =
        (known.after inner).definitions.length := by
      simp only [Model.definitions_after, Outline.definitions, List.length_append,
        Deletion.length_ofModel, List.length_map]
      omega
    simp only [Model.register, Deletion.latest_ofModel, Model.latest_after, name, place]
  rw [Model.mk.injEq]
  exact ⟨definitions, latest⟩

theorem Ready.register {known : Model} {inner rest : Outline} {made : Made}
    (ready : removal.Ready count known) (allowed : removal.Allows count (inner ++ { made := [made] }))
    (step : removal.Step count (inner ++ { made := [made] }) rest next) :
    removal.Ready next ((known.after inner).register made.definition) :=
  (ready.after allowed step).congr (by simp [Model.register, Outline.definitions])

theorem Step.cte {known : Model} {span : Span} {name : String} {nameSpan : Span}
    {names : List String} {query inner : Query}
    (ready : removal.Ready count known)
    (below : removal.Matches count (outlineQuery [] false query) (outlineQuery [] false inner) middle)
    (allowed : removal.Allows count ((outlineQuery [] false query known).1 ++
      { made := [⟨⟨name, nameSpan, renameColumns (outlineQuery [] false query known).2 names⟩,
        ⟨span, name, nameSpan, names, some query⟩, known⟩] })) :
    ∃ names' query', (if middle = removal.definition then
        removal.ofCte ⟨span, name, nameSpan, names, some query⟩
      else ⟨span, name, nameSpan, names, some inner⟩) = ⟨span, name, nameSpan, names', some query'⟩ ∧
      removal.Step count ((outlineQuery [] false query known).1 ++
        { made := [⟨⟨name, nameSpan, renameColumns (outlineQuery [] false query known).2 names⟩,
          ⟨span, name, nameSpan, names, some query⟩, known⟩] })
        ((outlineQuery [] false query' (removal.ofModel known)).1 ++
          { made := [⟨⟨name, nameSpan,
              renameColumns (outlineQuery [] false query' (removal.ofModel known)).2 names'⟩,
            ⟨span, name, nameSpan, names', some query'⟩, removal.ofModel known⟩] }) (middle + 1) := by
  obtain ⟨allowedInner, allowedOwn⟩ := allows_append.1 allowed
  obtain ⟨inside, columns⟩ := below known ready allowedInner
  split
  · next reached =>
    have place := inside.total.symm.trans reached
    obtain ⟨shorter, cte, renamed, step⟩ := Step.target (allowedOwn.target 0 _ rfl place) rfl place
    have later : removal.ofModel known = known :=
      removal.ofModel_eq_self (by rw [ready.count, ← place]; exact Nat.le_add_right ..)
    refine ⟨_, shorter, cte, ?_⟩
    rw [later, renamed, reached]
    exact step _ _
  · next other =>
    refine ⟨names, inner, rfl, ?_⟩
    rw [columns]
    exact inside.append (Step.define other)

mutual

theorem ofExpr_follows (expr : Expr) (count : Nat) :
    removal.Follows count expr.present (removal.ofExpr expr count).1.present
      (removal.ofExpr expr count).2 := by
  match expr with
  | .missing =>
    simp only [Deletion.ofExpr, Deletion.pure_apply]
    exact Follows.nil count
  | .column ref =>
    simp only [Deletion.ofExpr, Deletion.pure_apply]
    exact Follows.columns [ref] count
  | .literal constant =>
    simp only [Deletion.ofExpr, Deletion.pure_apply]
    exact Follows.children rfl rfl (Follows.nil count)
  | .star span table =>
    simp only [Deletion.ofExpr, Deletion.pure_apply]
    exact Follows.children rfl rfl (Follows.nil count)
  | .binary span left operator right =>
    have first := ofExpr_follows left count
    have second := ofExpr_follows right (removal.ofExpr left count).2
    simp only [Deletion.ofExpr, Deletion.bind_apply, Deletion.pure_apply]
    exact Follows.children rfl rfl (first.append second)
  | .unary span operator operand =>
    have below := ofExpr_follows operand count
    simp only [Deletion.ofExpr, Deletion.bind_apply, Deletion.pure_apply]
    exact Follows.children rfl rfl below
  | .call head arguments orderBy limit window =>
    have first := ofExprs_follows arguments count
    have second := ofOrder_follows orderBy (removal.ofExprs arguments count).2
    have third := ofOptional_follows limit
      (removal.ofOrder orderBy (removal.ofExprs arguments count).2).2
    have fourth := ofOver_follows window (removal.ofOptional limit
      (removal.ofOrder orderBy (removal.ofExprs arguments count).2).2).2
    simp only [Deletion.ofExpr, Deletion.bind_apply, Deletion.pure_apply]
    exact Follows.children rfl rfl 
      (((first.append second).append third).append fourth)
  | .case span operand branches otherwise =>
    have first := ofOptional_follows operand count
    have second := ofBranches_follows branches (removal.ofOptional operand count).2
    have third := ofOptional_follows otherwise
      (removal.ofBranches branches (removal.ofOptional operand count).2).2
    simp only [Deletion.ofExpr, Deletion.bind_apply, Deletion.pure_apply]
    exact Follows.children rfl rfl ((first.append second).append third)
  | .cast span operand typeName safe =>
    have below := ofExpr_follows operand count
    simp only [Deletion.ofExpr, Deletion.bind_apply, Deletion.pure_apply]
    exact Follows.children rfl rfl below
  | .inValues span operand negated values =>
    have first := ofExpr_follows operand count
    have second := ofExprs_follows values (removal.ofExpr operand count).2
    simp only [Deletion.ofExpr, Deletion.bind_apply, Deletion.pure_apply]
    exact Follows.children rfl rfl (first.append second)
  | .inQuery span operand negated query =>
    have first := ofExpr_follows operand count
    have second := Follows.query fun chain =>
      ofQuery_matches chain false query (removal.ofExpr operand count).2
    simp only [Deletion.ofExpr, Deletion.bind_apply, Deletion.pure_apply]
    exact Follows.children rfl rfl (first.append second)
  | .inUnnest span operand negated array =>
    have first := ofExpr_follows operand count
    have second := ofExpr_follows array (removal.ofExpr operand count).2
    simp only [Deletion.ofExpr, Deletion.bind_apply, Deletion.pure_apply]
    exact Follows.children rfl rfl (first.append second)
  | .between span operand negated low high =>
    have first := ofExpr_follows operand count
    have second := ofExpr_follows low (removal.ofExpr operand count).2
    have third := ofExpr_follows high (removal.ofExpr low (removal.ofExpr operand count).2).2
    simp only [Deletion.ofExpr, Deletion.bind_apply, Deletion.pure_apply]
    exact Follows.children rfl rfl ((first.append second).append third)
  | .isNull span operand negated =>
    have below := ofExpr_follows operand count
    simp only [Deletion.ofExpr, Deletion.bind_apply, Deletion.pure_apply]
    exact Follows.children rfl rfl below
  | .isBool span operand negated value =>
    have below := ofExpr_follows operand count
    simp only [Deletion.ofExpr, Deletion.bind_apply, Deletion.pure_apply]
    exact Follows.children rfl rfl below
  | .like span operand negated pattern =>
    have first := ofExpr_follows operand count
    have second := ofExpr_follows pattern (removal.ofExpr operand count).2
    simp only [Deletion.ofExpr, Deletion.bind_apply, Deletion.pure_apply]
    exact Follows.children rfl rfl (first.append second)
  | .paren span inner =>
    have below := ofExpr_follows inner count
    simp only [Deletion.ofExpr, Deletion.bind_apply, Deletion.pure_apply]
    exact Follows.children rfl rfl below
  | .subquery span query array =>
    have inner (chain : ScopeChain) := ofQuery_matches chain array query count
    simp only [Deletion.ofExpr, Deletion.bind_apply, Deletion.pure_apply]
    intro chain known ready allowed
    simp only [Expr.present, Outline.sequence, outlineNode, Outline.append_empty] at allowed ⊢
    exact (inner chain known ready allowed).1
  | .exists span query =>
    have below := Follows.query fun chain => ofQuery_matches chain false query count
    simp only [Deletion.ofExpr, Deletion.bind_apply, Deletion.pure_apply]
    exact Follows.children rfl rfl below
  | .struct span typeName fields =>
    have below := ofNamed_follows fields count
    simp only [Deletion.ofExpr, Deletion.bind_apply, Deletion.pure_apply]
    exact Follows.children rfl rfl below
  | .array span typeName elements =>
    have below := ofExprs_follows elements count
    simp only [Deletion.ofExpr, Deletion.bind_apply, Deletion.pure_apply]
    exact Follows.children rfl rfl below
  | .index span operand index mode =>
    have first := ofExpr_follows operand count
    have second := ofExpr_follows index (removal.ofExpr operand count).2
    simp only [Deletion.ofExpr, Deletion.bind_apply, Deletion.pure_apply]
    exact Follows.children rfl rfl (first.append second)
  | .field span operand name =>
    have below := ofExpr_follows operand count
    simp only [Deletion.ofExpr, Deletion.bind_apply, Deletion.pure_apply]
    exact Follows.children rfl rfl below
  | .extract span part operand =>
    have below := ofExpr_follows operand count
    simp only [Deletion.ofExpr, Deletion.bind_apply, Deletion.pure_apply]
    exact Follows.children rfl rfl below
  | .interval span value unit toUnit =>
    have below := ofExpr_follows value count
    simp only [Deletion.ofExpr, Deletion.bind_apply, Deletion.pure_apply]
    exact Follows.children rfl rfl below
termination_by sizeOf expr
decreasing_by all_goals decreasing_with omega

theorem ofExprs_follows (exprs : List Expr) (count : Nat) :
    removal.Follows count (exprNodes exprs) (exprNodes (removal.ofExprs exprs count).1)
      (removal.ofExprs exprs count).2 := by
  match exprs with
  | [] =>
    simp only [Deletion.ofExprs, Deletion.pure_apply]
    exact Follows.nil count
  | expr :: rest =>
    have first := ofExpr_follows expr count
    have others := ofExprs_follows rest (removal.ofExpr expr count).2
    simp only [Deletion.ofExprs, Deletion.bind_apply, Deletion.pure_apply]
    exact first.append others
termination_by sizeOf exprs
decreasing_by all_goals decreasing_with omega

theorem ofOptional_follows (expr : Option Expr) (count : Nat) :
    removal.Follows count (optionNodes expr) (optionNodes (removal.ofOptional expr count).1)
      (removal.ofOptional expr count).2 := by
  match expr with
  | none =>
    simp only [Deletion.ofOptional, Deletion.pure_apply]
    exact Follows.nil count
  | some expr =>
    have below := ofExpr_follows expr count
    simp only [Deletion.ofOptional, Deletion.bind_apply, Deletion.pure_apply]
    simpa only [optionNodes, exprNodes, Option.toList_some, List.flatMap_singleton] using below
termination_by sizeOf expr

theorem ofNamed_follows (items : List NamedExpr) (count : Nat) :
    removal.Follows count (namedNodes items) (namedNodes (removal.ofNamed items count).1)
      (removal.ofNamed items count).2 := by
  match items with
  | [] =>
    simp only [Deletion.ofNamed, Deletion.pure_apply]
    exact Follows.nil count
  | ⟨expr, name⟩ :: rest =>
    have first := ofExpr_follows expr count
    have others := ofNamed_follows rest (removal.ofExpr expr count).2
    simp only [Deletion.ofNamed, Deletion.bind_apply, Deletion.pure_apply]
    exact first.append others
termination_by sizeOf items
decreasing_by all_goals decreasing_with omega

theorem ofBranches_follows (branches : List CaseBranch) (count : Nat) :
    removal.Follows count (branchNodes branches) (branchNodes (removal.ofBranches branches count).1)
      (removal.ofBranches branches count).2 := by
  match branches with
  | [] =>
    simp only [Deletion.ofBranches, Deletion.pure_apply]
    exact Follows.nil count
  | ⟨condition, result⟩ :: rest =>
    have first := ofExpr_follows condition count
    have second := ofExpr_follows result (removal.ofExpr condition count).2
    have others := ofBranches_follows rest
      (removal.ofExpr result (removal.ofExpr condition count).2).2
    simp only [Deletion.ofBranches, Deletion.bind_apply, Deletion.pure_apply]
    exact (first.append second).append others
termination_by sizeOf branches
decreasing_by all_goals decreasing_with omega

theorem ofOrder_follows (items : List OrderItem) (count : Nat) :
    removal.Follows count (orderNodes items) (orderNodes (removal.ofOrder items count).1)
      (removal.ofOrder items count).2 := by
  match items with
  | [] =>
    simp only [Deletion.ofOrder, Deletion.pure_apply]
    exact Follows.nil count
  | ⟨expr, descending, nullsFirst⟩ :: rest =>
    have first := ofExpr_follows expr count
    have others := ofOrder_follows rest (removal.ofExpr expr count).2
    simp only [Deletion.ofOrder, Deletion.bind_apply, Deletion.pure_apply]
    exact first.append others
termination_by sizeOf items
decreasing_by all_goals decreasing_with omega

theorem ofWindow_follows (window : WindowSpec) (count : Nat) :
    removal.Follows count [.window window] [.window (removal.ofWindow window count).1]
      (removal.ofWindow window count).2 := by
  match window with
  | ⟨span, name, partitionBy, orderBy, frame, firstOffset, lastOffset⟩ =>
    have first := ofExprs_follows partitionBy count
    have second := ofOrder_follows orderBy (removal.ofExprs partitionBy count).2
    have third := ofOptional_follows firstOffset
      (removal.ofOrder orderBy (removal.ofExprs partitionBy count).2).2
    have fourth := ofOptional_follows lastOffset (removal.ofOptional firstOffset
      (removal.ofOrder orderBy (removal.ofExprs partitionBy count).2).2).2
    simp only [Deletion.ofWindow, Deletion.bind_apply, Deletion.pure_apply]
    exact Follows.window (((first.append second).append third).append fourth)
termination_by sizeOf window
decreasing_by all_goals decreasing_with omega

theorem ofOver_follows (window : Option WindowSpec) (count : Nat) :
    removal.Follows count (window.toList.map .window)
      ((removal.ofOver window count).1.toList.map .window) (removal.ofOver window count).2 := by
  match window with
  | none =>
    simp only [Deletion.ofOver, Deletion.pure_apply]
    exact Follows.nil count
  | some window =>
    have below := ofWindow_follows window count
    simp only [Deletion.ofOver, Deletion.bind_apply, Deletion.pure_apply]
    exact below
termination_by sizeOf window

theorem ofWindows_follows (windows : List NamedWindow) (count : Nat) :
    removal.Follows count (windows.map fun window => .window window.spec)
      ((removal.ofWindows windows count).1.map fun window => .window window.spec)
      (removal.ofWindows windows count).2 := by
  match windows with
  | [] =>
    simp only [Deletion.ofWindows, Deletion.pure_apply]
    exact Follows.nil count
  | ⟨name, window⟩ :: rest =>
    have first := ofWindow_follows window count
    have others := ofWindows_follows rest (removal.ofWindow window count).2
    simp only [Deletion.ofWindows, Deletion.bind_apply, Deletion.pure_apply]
    exact first.append others
termination_by sizeOf windows
decreasing_by all_goals decreasing_with omega

theorem ofQuery_matches (chain : ScopeChain) (final : Bool) (query : Query) (count : Nat) :
    removal.Matches count (outlineQuery chain final query)
      (outlineQuery chain final (removal.ofQuery final query count).1)
      (removal.ofQuery final query count).2 := by
  match query with
  | ⟨span, definitions, body⟩ =>
    intro known ready allowed
    simp only [outlineQuery, allows_append] at allowed
    obtain ⟨own, inside⟩ := ofWith_matches definitions count known ready allowed.1
    have within := (ready.after allowed.1 own).congr (outlineWith_definitions definitions known).symm
    obtain ⟨rest, columns⟩ := ofBody_matches chain final true body (removal.ofWith definitions count).2
      (outlineWith definitions known).2 within (own.total ▸ allowed.2)
    simp only [Deletion.ofQuery, Deletion.bind_apply, Deletion.pure_apply, outlineQuery, inside]
    exact ⟨own.append rest, columns⟩
termination_by sizeOf query
decreasing_by all_goals decreasing_with omega

theorem ofWith_matches (definitions : Option WithClause) (count : Nat) (known : Model)
    (ready : removal.Ready count known)
    (allowed : removal.Allows count (outlineWith definitions known).1) :
    removal.Step count (outlineWith definitions known).1
      (outlineWith (removal.ofWith definitions count).1 (removal.ofModel known)).1
      (removal.ofWith definitions count).2 ∧
    (outlineWith (removal.ofWith definitions count).1 (removal.ofModel known)).2 =
      removal.ofModel (outlineWith definitions known).2 := by
  match definitions with
  | none =>
    simp only [Deletion.ofWith, Deletion.pure_apply, outlineWith]
    exact ⟨Step.empty count, trivial⟩
  | some ⟨span, recursive, ctes⟩ =>
    simp only [outlineWith] at allowed
    simp only [Deletion.ofWith, Deletion.bind_apply, Deletion.pure_apply, outlineWith]
    exact ofCtes_matches ctes count known ready allowed
termination_by sizeOf definitions
decreasing_by all_goals decreasing_with omega

theorem ofCtes_matches (ctes : List Cte) (count : Nat) (known : Model)
    (ready : removal.Ready count known) (allowed : removal.Allows count (outlineCtes ctes known).1) :
    removal.Step count (outlineCtes ctes known).1
      (outlineCtes (removal.ofCtes ctes count).1 (removal.ofModel known)).1
      (removal.ofCtes ctes count).2 ∧
    (outlineCtes (removal.ofCtes ctes count).1 (removal.ofModel known)).2 =
      removal.ofModel (outlineCtes ctes known).2 := by
  match ctes with
  | [] =>
    simp only [Deletion.ofCtes, Deletion.pure_apply, outlineCtes]
    exact ⟨Step.empty count, trivial⟩
  | ⟨span, name, nameSpan, names, none⟩ :: rest =>
    simp only [outlineCtes, allows_append] at allowed
    have other : count ≠ removal.definition := by
      intro same
      obtain ⟨selected, -⟩ := (allowed.1.target 0 _ rfl same).item
      exact nomatch selected.single
    have head : removal.Step count
        ({} ++ { made := [⟨⟨name, nameSpan, []⟩, ⟨span, name, nameSpan, names, none⟩, known⟩] })
        ({} ++ { made := [⟨⟨name, nameSpan, []⟩, ⟨span, name, nameSpan, names, none⟩,
          removal.ofModel known⟩] }) (count + 1) :=
      Step.define other
    have further := ready.register allowed.1 head
    have registered := ready.ofModel_register head rfl
    simp only [Model.after_empty] at further registered
    obtain ⟨tail, inside⟩ := ofCtes_matches rest (count + 1) _ further allowed.2
    simp only [Deletion.ofCtes, Deletion.bind_apply, Deletion.pure_apply, Deletion.modify_apply,
      outlineCtes, registered]
    exact ⟨head.append tail, inside⟩
  | ⟨span, name, nameSpan, names, some query⟩ :: rest =>
    simp only [outlineCtes] at allowed
    obtain ⟨allowed, allowedRest⟩ := allows_append.1 allowed
    obtain ⟨names', query', cte, head⟩ :=
      Step.cte ready (ofQuery_matches [] false query count) allowed
    have further := ready.register allowed head
    have registered := ready.ofModel_register head rfl
    dsimp only at registered
    obtain ⟨tail, inside⟩ := ofCtes_matches rest ((removal.ofQuery false query count).2 + 1) _ further
      (head.total ▸ allowedRest)
    rw [removal.ofCtes_some, cte]
    simp only [outlineCtes, registered]
    exact ⟨head.append tail, inside⟩
termination_by sizeOf ctes
decreasing_by all_goals decreasing_with omega

theorem ofBody_matches (chain : ScopeChain) (final first : Bool) (body : QueryBody) (count : Nat) :
    removal.Matches count (outlineBody chain final first body)
      (outlineBody chain final first (removal.ofBody final first body count).1)
      (removal.ofBody final first body count).2 := by
  match body with
  | .single _ (.block block) =>
    have inner := ofBlock_matches chain final block count
    simpa only [Matches, Deletion.ofBody, Deletion.bind_apply, Deletion.pure_apply,
      outlineBody] using inner
  | .single _ (.nested query) =>
    have inner := ofQuery_matches chain (final && first) query count
    simpa only [Matches, Deletion.ofBody, Deletion.bind_apply, Deletion.pure_apply,
      outlineBody] using inner
  | .combined _ (.block block) _ _ right =>
    intro known ready allowed
    simp only [outlineBody, allows_append] at allowed
    obtain ⟨left, columns⟩ := ofBlock_matches chain final block count known ready allowed.1
    have rest := ofBody_matches chain final false right (removal.ofBlock final block count).2 _
      (ready.after allowed.1 left) (left.total ▸ allowed.2)
    simp only [Deletion.ofBody, Deletion.bind_apply, Deletion.pure_apply, outlineBody,
      ready.ofModel_after left]
    exact ⟨left.append rest.1, columns⟩
  | .combined _ (.nested query) _ _ right =>
    intro known ready allowed
    simp only [outlineBody, allows_append] at allowed
    obtain ⟨left, columns⟩ := ofQuery_matches chain false query count known ready allowed.1
    have rest := ofBody_matches chain final false right (removal.ofQuery false query count).2 _
      (ready.after allowed.1 left) (left.total ▸ allowed.2)
    simp only [Deletion.ofBody, Deletion.bind_apply, Deletion.pure_apply, outlineBody,
      ready.ofModel_after left]
    exact ⟨left.append rest.1, columns⟩
termination_by sizeOf body
decreasing_by all_goals decreasing_with omega

theorem ofBlock_matches (chain : ScopeChain) (final : Bool) (block : SelectBlock) (count : Nat) :
    removal.Matches count (outlineBlock chain final block)
      (outlineBlock chain final (removal.ofBlock final block count).1)
      (removal.ofBlock final block count).2 := by
  match block with
  | ⟨span, distinct, asKind, items, source, filter, groupBy, having, windows, qualify, orderBy,
      orderByPosition, limit, offset, extensions⟩ =>
    have ordering (ordered : Bool) (count : Nat) : removal.Follows count
        (if ordered then orderNodes orderBy else [])
        (if ordered then
          orderNodes ((if ordered then removal.ofOrder orderBy else pure orderBy) count).1 else [])
        ((if ordered then removal.ofOrder orderBy else pure orderBy) count).2 := by
      cases ordered with
      | false => exact Follows.nil count
      | true => exact ofOrder_follows orderBy count
    have clauses := (((((ofOptional_follows filter (removal.ofFrom source count).2).append
      (ofExprs_follows groupBy _)).append (ofOptional_follows having _)).append
      (ofWindows_follows windows _)).append (ofOptional_follows qualify _)).append
      (ordering (final || (limit.isSome || offset.isSome)) _)
    simp only [Deletion.ofBlock, Deletion.bind_apply, Deletion.pure_apply]
    exact Matches.block (ofFrom_matches chain source count) clauses
      fun scope => ofItems_matches (scope :: chain) items 0 _
termination_by sizeOf block
decreasing_by all_goals decreasing_with omega


theorem ofItems_matches (chain : ScopeChain) (items : List SelectItem) (anonymous count : Nat) :
    removal.Matches count (outlineItems chain items anonymous)
      (outlineItems chain (removal.ofItems items count).1 anonymous)
      (removal.ofItems items count).2 := by
  match items with
  | [] =>
    intro known ready allowed
    simp only [Deletion.ofItems, Deletion.pure_apply, outlineItems]
    exact ⟨Step.empty count, trivial⟩
  | .star span modifiers :: rest =>
    intro known ready allowed
    simp only [outlineItems, allows_append] at allowed
    obtain ⟨head, columns⟩ := ofStar_matches chain "" span modifiers count known ready allowed.1
    obtain ⟨tail, further⟩ := ofItems_matches chain rest anonymous
      (removal.ofModifiers modifiers count).2 _ (ready.after allowed.1 head) (head.total ▸ allowed.2)
    simp only [Deletion.ofItems, Deletion.bind_apply, Deletion.pure_apply, outlineItems, columns,
      ready.ofModel_after head, further]
    exact ⟨head.append tail, trivial⟩
  | .tableStar span table modifiers :: rest =>
    intro known ready allowed
    simp only [outlineItems, allows_append] at allowed
    obtain ⟨head, columns⟩ := ofStar_matches chain table span modifiers count known ready allowed.1
    obtain ⟨tail, further⟩ := ofItems_matches chain rest anonymous
      (removal.ofModifiers modifiers count).2 _ (ready.after allowed.1 head) (head.total ▸ allowed.2)
    simp only [Deletion.ofItems, Deletion.bind_apply, Deletion.pure_apply, outlineItems, columns,
      ready.ofModel_after head, further]
    exact ⟨head.append tail, trivial⟩
  | .expr span expr aliasName aliasSpan :: rest =>
    intro known ready allowed
    simp only [outlineItems, outlineNode_expr, allows_append] at allowed
    have head := ofExpr_follows expr count chain known ready allowed.1
    obtain ⟨tail, further⟩ := ofItems_matches chain rest _ (removal.ofExpr expr count).2 _
      (ready.after allowed.1 head) (head.total ▸ allowed.2)
    simp only [Deletion.ofItems, Deletion.bind_apply, Deletion.pure_apply, outlineItems,
      outlineNode_expr, removal.defineColumn_ofExpr, ready.ofModel_after head, further]
    exact ⟨head.append tail, trivial⟩
termination_by sizeOf items
decreasing_by all_goals decreasing_with omega

theorem ofModifiers_follows (modifiers : List StarModifier) (count : Nat) :
    removal.Follows count (modifiers.flatMap StarModifier.nodes)
      ((removal.ofModifiers modifiers count).1.flatMap StarModifier.nodes)
      (removal.ofModifiers modifiers count).2 := by
  match modifiers with
  | [] =>
    simp only [Deletion.ofModifiers, Deletion.pure_apply]
    exact Follows.nil count
  | .except columns :: rest =>
    have others := ofModifiers_follows rest count
    simp only [Deletion.ofModifiers, Deletion.bind_apply, Deletion.pure_apply]
    exact (Follows.nil count).append others
  | .replace items :: rest =>
    have first := ofNamed_follows items count
    have others := ofModifiers_follows rest (removal.ofNamed items count).2
    simp only [Deletion.ofModifiers, Deletion.bind_apply, Deletion.pure_apply]
    exact first.append others
termination_by sizeOf modifiers
decreasing_by all_goals decreasing_with omega

theorem ofStar_matches (chain : ScopeChain) (table : String) (span : Span)
    (modifiers : List StarModifier) (count : Nat) :
    removal.Matches count (outlineStar chain table span modifiers)
      (outlineStar chain table span (removal.ofModifiers modifiers count).1)
      (removal.ofModifiers modifiers count).2 := by
  intro known ready allowed
  simp only [outlineStar_eq, allows_append] at allowed
  have head := ofModifiers_follows modifiers count chain known ready allowed.1
  have spared := allowed.2.spared _ (List.mem_singleton_self _)
  have columns := passedOn_ofModel (ready.after allowed.1 head) span spared
  simp only [outlineStar_eq, removal.excepted_ofModifiers, removal.replaced_ofModifiers,
    ready.ofModel_after head]
  refine ⟨head.append (Step.readAll _ _), ?_⟩
  rw [← columns]
  simp only [Model.passedOn, removal.excepted_ofModifiers]
termination_by sizeOf modifiers + 1

theorem ofFrom_matches (chain : ScopeChain) (source : Option FromClause) (count : Nat) :
    removal.Matches count (outlineFrom chain source)
      (outlineFrom chain (removal.ofFrom source count).1) (removal.ofFrom source count).2 := by
  match source with
  | none =>
    intro known ready allowed
    simp only [Deletion.ofFrom, Deletion.pure_apply, outlineFrom]
    exact ⟨Step.empty count, trivial⟩
  | some ⟨span, first, joins⟩ =>
    intro known ready allowed
    simp only [outlineFrom, outlineSources, allows_append] at allowed
    obtain ⟨head, scope⟩ := ofSource_matches chain [] first count known ready allowed.1
    obtain ⟨tail, scopes⟩ := ofJoins_matches chain (outlineSource chain [] first known).2 joins
      (removal.ofSource first count).2 _ (ready.after allowed.1 head) (head.total ▸ allowed.2)
    simp only [Deletion.ofFrom, Deletion.bind_apply, Deletion.pure_apply, outlineFrom,
      outlineSources, scope, ready.ofModel_after head, scopes]
    exact ⟨head.append tail, trivial⟩
termination_by sizeOf source
decreasing_by all_goals decreasing_with omega

theorem ofJoins_matches (chain : ScopeChain) (scope : Scope) (joins : List Join) (count : Nat) :
    removal.Matches count (outlineJoins chain scope joins)
      (outlineJoins chain scope (removal.ofJoins joins count).1) (removal.ofJoins joins count).2 := by
  match joins with
  | [] =>
    intro known ready allowed
    simp only [Deletion.ofJoins, Deletion.pure_apply, outlineJoins]
    exact ⟨Step.empty count, trivial⟩
  | ⟨span, kind, natural, right, condition, columns⟩ :: rest =>
    intro known ready allowed
    simp only [outlineJoins_cons, allows_append] at allowed
    obtain ⟨⟨allowedSource, allowedConditions⟩, allowedRest⟩ := allowed
    obtain ⟨head, inner⟩ := ofSource_matches chain scope right count known ready allowedSource
    have conditions := (ofOptional_follows condition (removal.ofSource right count).2).append
      (Follows.columns columns _)
    have middle := conditions _ _ (ready.after allowedSource head) (head.total ▸ allowedConditions)
    have both := head.append middle
    have before := allows_append.2 ⟨allowedSource, allowedConditions⟩
    rw [← Model.after_append, ← both.total] at allowedRest
    obtain ⟨tail, scopes⟩ := ofJoins_matches chain (outlineSource chain scope right known).2 rest
      _ _ (ready.after before both) allowedRest
    simp only [Deletion.ofJoins, Deletion.bind_apply, Deletion.pure_apply, outlineJoins_cons, inner,
      ready.ofModel_after head, (ready.after allowedSource head).ofModel_after middle]
    simp only [Model.after_append] at tail scopes
    exact ⟨both.append tail, scopes⟩
termination_by sizeOf joins
decreasing_by all_goals decreasing_with omega

theorem ofSource_matches (chain : ScopeChain) (scope : Scope) (source : TableRef) (count : Nat) :
    removal.Matches count (outlineSource chain scope source)
      (outlineSource chain scope (removal.ofSource source count).1)
      (removal.ofSource source count).2 := by
  match source with
  | .missing =>
    intro known ready allowed
    simp only [Deletion.ofSource, Deletion.pure_apply, outlineSource]
    exact ⟨Step.empty count, trivial⟩
  | .table table =>
    intro known ready allowed
    simp only [Deletion.ofSource, Deletion.pure_apply, outlineSource, removal.lookup_ofModel]
    split
    · exact ⟨Step.empty count, trivial⟩
    · split
      · exact ⟨Step.readAll count _, trivial⟩
      · exact ⟨Step.empty count, trivial⟩
  | .derived span query aliasName =>
    intro known ready allowed
    simp only [outlineSource] at allowed
    have inner := ofQuery_matches (scope :: chain) false query count known ready allowed
    simp only [Deletion.ofSource, Deletion.bind_apply, Deletion.pure_apply, outlineSource]
    exact ⟨inner.1, trivial⟩
  | .function span call aliasName withOffset offsetAlias =>
    intro known ready allowed
    simp only [outlineSource, outlineNode_expr] at allowed
    have inner := ofExpr_follows call count (scope :: chain) known ready allowed
    simp only [Deletion.ofSource, Deletion.bind_apply, Deletion.pure_apply, outlineSource,
      outlineNode_expr]
    exact ⟨inner, trivial⟩
  | .pivot span source aggregates forColumn values aliasName =>
    intro known ready allowed
    simp only [outlineSource_pivot, allows_append] at allowed
    obtain ⟨⟨allowedSource, allowedColumns⟩, -⟩ := allowed
    obtain ⟨head, own⟩ := ofSource_matches (scope :: chain) [] source count known ready allowedSource
    have columns := ((ofNamed_follows aggregates (removal.ofSource source count).2).append
      (Follows.columns [forColumn] _)).append
        (ofNamed_follows values (removal.ofNamed aggregates (removal.ofSource source count).2).2)
    have middle := columns _ _ (ready.after allowedSource head) (head.total ▸ allowedColumns)
    simp only [Deletion.ofSource, Deletion.bind_apply, Deletion.pure_apply, outlineSource_pivot, own,
      ready.ofModel_after head]
    exact ⟨(head.append middle).append (Step.readAll _ _), trivial⟩
  | .unpivot span source valueColumns nameColumn groups aliasName =>
    intro known ready allowed
    simp only [outlineSource, allows_append] at allowed
    obtain ⟨⟨allowedSource, -⟩, -⟩ := allowed
    obtain ⟨head, own⟩ := ofSource_matches (scope :: chain) [] source count known ready allowedSource
    simp only [Deletion.ofSource, Deletion.bind_apply, Deletion.pure_apply, outlineSource, own]
    exact ⟨(head.append (Step.readAll _ _)).append (Step.readAll _ _), trivial⟩
termination_by sizeOf source
decreasing_by all_goals decreasing_with omega

end

end Removal

end QueryLint.Usage
