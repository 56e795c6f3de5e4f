import QueryLint.Proofs.Usage.Scoping
import QueryLint.Proofs.Usage.UnusedColumn

/-!
Further references in a statement. An expression without definitions of its own that is added to a block
of the outermost query, as a select item or as a condition, reads columns in the scope of that block and
does nothing else. The analysis of the statement is then the earlier one with these columns marked, so
of the columns that were reported those that the expression reaches are left out and the others stay
as they are.
-/

namespace QueryLint

def SelectBlock.addItem (block : SelectBlock) (item : SelectItem) : SelectBlock :=
  block.withItems (block.items ++ [item])

def SelectBlock.addCondition (block : SelectBlock) (span : Span) (condition : Expr) : SelectBlock :=
  { block with
    filter := some (match block.filter with
      | none => condition
      | some written => .binary span written Keyword.AND condition) }

def QueryBody.withBlock (block : SelectBlock) : QueryBody → Nat → QueryBody
  | .single span _, 0 => .single span (.block block)
  | .combined span _ operator all right, 0 => .combined span (.block block) operator all right
  | .combined span left operator all right, place + 1 =>
    .combined span left operator all (right.withBlock block place)
  | body, _ => body

def Query.withBlock (query : Query) (place : Nat) (block : SelectBlock) : Query :=
  { query with body := query.body.withBlock block place }

namespace Usage

open scoped Classical

/-! ### Outlines that read more -/

/-- Both outlines make the same, and the second one reads the same and more. -/
structure Outline.Widens (outline : Outline) (more : List Site) (wider : Outline) : Prop where
  made : wider.made = outline.made
  sites : ∀ site, site ∈ wider.sites ↔ site ∈ outline.sites ∨ site ∈ more

namespace Outline.Widens

variable {outline wider : Outline} {more : List Site}

theorem after (widens : outline.Widens more wider) (known : Model) :
    known.after wider = known.after outline := by
  simp only [Model.after, Outline.definitions, widens.made]

theorem behind (widens : outline.Widens more wider) (first : Outline) :
    (first ++ outline).Widens more (first ++ wider) where
  made := congrArg (first.made ++ ·) widens.made
  sites := by
    intro site
    simp only [Outline.sites_append, List.mem_append, widens.sites, or_assoc]

theorem before (widens : outline.Widens more wider) (rest : Outline) :
    (outline ++ rest).Widens more (wider ++ rest) where
  made := congrArg (· ++ rest.made) widens.made
  sites := by
    intro site
    simp only [Outline.sites_append, List.mem_append, widens.sites]
    exact or_right_comm

theorem concat (outline : Outline) {further : Outline} (nothing : further.made = []) :
    outline.Widens further.sites (outline ++ further) where
  made := by rw [Outline.made_append, nothing, List.append_nil]
  sites := fun site => by rw [Outline.sites_append, List.mem_append]

end Outline.Widens

def readingIn (block : SelectBlock) (names : Model) (expr : Expr) : List Site :=
  (outlineNode [block.scope names] (.expr expr) names).sites

theorem sequence_some (chain : ScopeChain) (expr : Expr) (known : Model) :
    Outline.sequence (outlineNode chain) (optionNodes (some expr)) known =
      outlineNode chain (.expr expr) known := by
  rw [outlineNode_expr]
  simp [optionNodes, exprNodes]

theorem outlineNode_binary (chain : ScopeChain) (span : Span) (left : Expr) (operator : TokenKind)
    (right : Expr) (known : Model) :
    outlineNode chain (.expr (.binary span left operator right)) known =
      outlineNode chain (.expr left) known ++ outlineNode chain (.expr right)
        (known.after (outlineNode chain (.expr left) known)) := by
  have children : Node.children (.expr (.binary span left operator right)) =
      left.present ++ right.present := rfl
  rw [outlineNode_children (by simp) (by simp) (by simp), children, Outline.sequence_append,
    outlineNode_expr chain left, outlineNode_expr chain right]

section Added

variable {block : SelectBlock} {expr : Expr} {known names : Model}

theorem widens_expr (plain : Plain (.expr expr)) (same : known.latest = names.latest)
    (outline : Outline) : outline.Widens (readingIn block names expr)
      (outline ++ outlineNode [block.scope names] (.expr expr) known) := by
  have nothing := outlineNode_made [block.scope names] (.expr expr) known plain
  have read := outlineNode_nameDriven [block.scope names] (.expr expr) plain known names same
  rw [readingIn, ← read]
  exact .concat outline nothing

theorem outlineBlock_addItem (plain : Plain (.expr expr)) (same : known.latest = names.latest)
    (final : Bool) (span : Span) (aliasName : String) (aliasSpan : Span) :
    (outlineBlock [] final block known).1.Widens (readingIn block names expr)
      (outlineBlock [] final (block.addItem (.expr span expr aliasName aliasSpan)) known).1 := by
  obtain ⟨further, items⟩ := outlineItems_append [block.scope names] block.items 0
  have whole := outlineBlock_items [] final block block.items known
  rw [withItems_self] at whole
  rw [whole, SelectBlock.addItem, outlineBlock_items, outlineFrom_scope, scope_congr same]
  simp only [items, outlineItems, Outline.append_empty]
  exact (widens_expr plain (by simpa using same) _).behind _

theorem sequence_addCondition (block : SelectBlock) (known : Model) (plain : Plain (.expr expr))
    (same : known.latest = names.latest) (span : Span) :
    (Outline.sequence (outlineNode [block.scope names]) (optionNodes block.filter) known).Widens
      (readingIn block names expr)
      (Outline.sequence (outlineNode [block.scope names])
        (optionNodes (block.addCondition span expr).filter) known) := by
  cases written : block.filter with
  | none =>
    simp only [SelectBlock.addCondition, written, sequence_some]
    exact widens_expr plain same {}
  | some condition =>
    simp only [SelectBlock.addCondition, written, sequence_some, outlineNode_binary]
    exact widens_expr plain (by simpa using same) _

theorem outlineBlock_addCondition (plain : Plain (.expr expr)) (same : known.latest = names.latest)
    (final : Bool) (span : Span) :
    (outlineBlock [] final block known).1.Widens (readingIn block names expr)
      (outlineBlock [] final (block.addCondition span expr) known).1 := by
  have source : (block.addCondition span expr).source = block.source := rfl
  have items : (block.addCondition span expr).items = block.items := rfl
  have limit : (block.addCondition span expr).hasLimit = block.hasLimit := rfl
  have scope : (outlineFrom [] block.source known).2 = block.scope names := by
    rw [outlineFrom_scope, scope_congr same]
  obtain ⟨rest, before, after⟩ : ∃ rest,
      clauseNodes block (final || block.hasLimit) = optionNodes block.filter ++ rest ∧
      clauseNodes (block.addCondition span expr) (final || block.hasLimit) =
        optionNodes (block.addCondition span expr).filter ++ rest := by
    simp only [clauseNodes, List.append_assoc]
    exact ⟨_, rfl, rfl⟩
  have conditions := sequence_addCondition block
    (known.after (outlineFrom [] block.source known).1) plain (by simpa using same) span
  simp only [outlineBlock_eq, source, items, limit, scope, before, after, Outline.sequence_append,
    Model.after_append, conditions.after]
  exact ((conditions.before _).behind _).before _

/-- A body in which a block reads more. -/
theorem outlineBody_withBlock {wider : SelectBlock} {more : List Site}
    (widens : ∀ final known, known.latest = names.latest →
      (outlineBlock [] final block known).1.Widens more (outlineBlock [] final wider known).1)
    {body : QueryBody} {place : Nat} (found : body.operands[place]? = some (.block block))
    (final first : Bool) (same : known.latest = names.latest) :
    (outlineBody [] final first body known).1.Widens more
      (outlineBody [] final first (body.withBlock wider place) known).1 := by
  induction body using QueryBody.operands.induct generalizing place first known with
  | case1 span operand =>
    rw [QueryBody.operands, List.getElem?_singleton] at found
    split at found
    · next first =>
      obtain rfl := Option.some.inj found
      simp only [first, QueryBody.withBlock, outlineBody]
      exact widens final known same
    · cases found
  | case2 span left operator all right ih =>
    rw [QueryBody.operands] at found
    cases place with
    | zero =>
      obtain rfl := Option.some.inj found
      have head := widens final known same
      simp only [QueryBody.withBlock, outlineBody, head.after]
      exact head.before _
    | succ place =>
      have tail (inner : Model) (later : inner.latest = names.latest) :=
        ih found false later
      cases left with
      | block own =>
        simp only [QueryBody.withBlock, outlineBody]
        exact (tail _ (by simpa using same)).behind _
      | nested query =>
        simp only [QueryBody.withBlock, outlineBody]
        exact (tail _ (by simpa using same)).behind _

end Added

/-! ### The analysis of a wider statement -/

section Statement

variable {query : Query} {place : Nat} {block : SelectBlock} {expr : Expr}

theorem latest_collect (query : Query) : (collect query).latest = (Outline.model query).latest :=
  (collect_reads query).latest

/-- What an expression in the scope of a block reads of the definitions of a statement. -/
def ReadIn (query : Query) (block : SelectBlock) (expr : Expr) (id : Nat) (key : String) : Prop :=
  ∃ site ∈ readingIn block (collect query) expr, site.Reaches (collect query).definitions id key

theorem readingIn_collect (plain : Plain (.expr expr)) :
    readingIn block (collect query) expr = readingIn block (Outline.model query) expr := by
  rw [readingIn, readingIn, scope_congr (latest_collect query)]
  exact outlineNode_nameDriven _ _ plain _ _ (latest_collect query)

theorem mark_reads_statement (query : Query) (block : SelectBlock) (plain : Plain (.expr expr)) :
    Reads (Outline.model query)
      ((Outline.ofQuery query).sites ++ readingIn block (Outline.model query) expr)
      (mark [block.scope (collect query)] (.expr expr) (collect query)) := by
  have reads := collect_reads query
  have within : ScopeChain.Within [block.scope (Outline.model query)]
      (Outline.model query).definitions.length := by
    intro scope member
    rw [List.mem_singleton.1 member]
    exact scope_within reads.named block
  have visited := mark_reads _ (.expr expr) _ _ _ within reads
  have nothing := outlineNode_made [block.scope (Outline.model query)] (.expr expr)
    (Outline.model query) plain
  rw [scope_congr (latest_collect query)]
  simpa [Model.after, Outline.definitions, nothing, readingIn] using visited

theorem Reads.unique {known model other : Model} {sites more : List Site}
    (reads : Reads known sites model) (others : Reads known more other)
    (same : ∀ site, site ∈ sites ↔ site ∈ more) : model = other := by
  rw [reads.marked, others.marked]
  exact Model.marking_congr fun id key => exists_congr fun site => and_congr_left' (same site)

theorem marking_readIn (plain : Plain (.expr expr)) (query : Query) (block : SelectBlock) :
    mark [block.scope (collect query)] (.expr expr) (collect query) =
      (collect query).marking (ReadIn query block expr) := by
  have reads := collect_reads query
  have visited := mark_reads_statement query block plain
  have resolved (id : Nat) (key : String) : ReadIn query block expr id key ↔
      ∃ site ∈ readingIn block (Outline.model query) expr,
        site.Reaches (Outline.model query).definitions id key := by
    rw [ReadIn, readingIn_collect plain]
    refine exists_congr fun site => and_congr_right fun place => ?_
    exact Site.reaches_congr (visited.within site (List.mem_append_right _ place))
      (fun id _ key => reads.hasColumn id key) id key
  rw [visited.marked, Model.marking_congr resolved]
  rw [reads.marked, Model.marking_marking]
  apply Model.marking_congr
  intro id key
  simp only [List.mem_append, or_and_right, exists_or]

theorem collect_withBlock {wider : SelectBlock}
    (widens : ∀ final known, known.latest = (Outline.model query).latest →
      (outlineBlock [] final block known).1.Widens (readingIn block (Outline.model query) expr)
        (outlineBlock [] final wider known).1)
    (plain : Plain (.expr expr)) (found : query.body.operands[place]? = some (.block block)) :
    collect (query.withBlock place wider) =
      mark [block.scope (collect query)] (.expr expr) (collect query) := by
  have body := outlineBody_withBlock widens found true true
    (rfl : (outlineWith query.definitions {}).2.latest = (Outline.model query).latest)
  have outline : (Outline.ofQuery query).Widens (readingIn block (Outline.model query) expr)
      (Outline.ofQuery (query.withBlock place wider)) := body.behind _
  have known : Outline.model (query.withBlock place wider) = Outline.model query := by
    simp only [Outline.model, Outline.definitions, outline.made]
    rfl
  have reads := collect_reads (query.withBlock place wider)
  rw [known] at reads
  apply reads.unique (mark_reads_statement query block plain)
  intro site
  rw [outline.sites, List.mem_append]

end Statement

/-- A reference that is added to a block of the outermost query, in a select item or in a condition, is
visited in the scope that the block makes, and the visit of the statement is otherwise as before. So the
analysis reports the same columns in the same order, without those that the added expression reads. -/
theorem added_reference_removes_violations (query : Query) (place : Nat) (block : SelectBlock)
    (found : query.body.operands[place]? = some (.block block)) (expr : Expr)
    (plain : Plain (.expr expr)) (span : Span) (aliasName : String) (aliasSpan : Span) :
    (∀ clause, block.source = some clause →
      (sources [] clause (collect query)).2 = block.scope (collect query)) ∧
    mark [block.scope (collect query)] (.expr expr) (collect query) =
      (collect query).marking (ReadIn query block expr) ∧
    analyze query = (collect query).numberedViolations.map Prod.snd ∧
    ∀ wider, wider = block.addItem (.expr span expr aliasName aliasSpan) ∨
        wider = block.addCondition span expr →
      collect (query.withBlock place wider) =
        mark [block.scope (collect query)] (.expr expr) (collect query) ∧
      analyze (query.withBlock place wider) = ((collect query).numberedViolations.filter
        fun entry => ¬ReadIn query block expr entry.1 (Text.fold entry.2.column)).map Prod.snd := by
  have read := marking_readIn plain query block
  refine ⟨fun clause present => sources_scope [] present _, read,
    (Model.map_snd_numberedViolations _).symm, ?_⟩
  intro wider added
  have widens : ∀ final known, known.latest = (Outline.model query).latest →
      (outlineBlock [] final block known).1.Widens (readingIn block (Outline.model query) expr)
        (outlineBlock [] final wider known).1 := by
    intro final known same
    rcases added with rfl | rfl
    · exact outlineBlock_addItem plain same final span aliasName aliasSpan
    · exact outlineBlock_addCondition plain same final span
  have visited := collect_withBlock widens plain found
  refine ⟨visited, ?_⟩
  rw [analyze, visited, read, ← Model.map_snd_numberedViolations, Model.numberedViolations_marking]

/-- `SELECT x FROM t`. -/
def narrowBlock : SelectBlock := simpleBlock [.expr {} (.column { column := "x" }) "" {}] "t"

/-- `WITH t AS (SELECT a AS x, b AS y FROM s) SELECT x FROM t`. -/
def narrowQuery : Query :=
  let item (name aliasName : String) : SelectItem := .expr {} (.column { column := name }) aliasName {}
  let source := simpleBlock [item "a" "x", item "b" "y"] "s"
  ⟨{}, some ⟨{}, false, [⟨{}, "t", {}, [], some ⟨{}, none, .single {} (.block source)⟩⟩]⟩,
    .single {} (.block narrowBlock)⟩

/-- The report of `y` goes away with `y AS z` as a further item and with `y` as a condition. -/
theorem narrowQuery_widened :
    let added : Expr := .column { column := "y" }
    analyze narrowQuery = [⟨"t", "y", {}⟩] ∧
    analyze (narrowQuery.withBlock 0 (narrowBlock.addItem (.expr {} added "z" {}))) = [] ∧
    analyze (narrowQuery.withBlock 0 (narrowBlock.addCondition {} added)) = [] := by
  intro added
  have operand : narrowQuery.body.operands[0]? = some (.block narrowBlock) := by
    simp [narrowQuery, QueryBody.operands]
  have visit := (added_reference_removes_violations narrowQuery 0 narrowBlock operand added
    (plain_column _) {} "z" {}).2.2.2
  have marked : (mark [narrowBlock.scope (collect narrowQuery)] (.expr (.column { column := "y" }))
      (collect narrowQuery)).violations = [] := by cbv
  refine ⟨by cbv, ?_, ?_⟩
  · rw [analyze, (visit _ (.inl rfl)).1]
    exact marked
  · rw [analyze, (visit _ (.inr rfl)).1]
    exact marked

end Usage

end QueryLint
