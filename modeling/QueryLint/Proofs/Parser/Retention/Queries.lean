import QueryLint.Proofs.Parser.Queries
import QueryLint.Proofs.Parser.Retention.Expressions
import QueryLint.Proofs.Parser.Retention.Sources

/-!
What queries retain. A clause puts what it has read into its slot, so nothing is lost as long as a
dialect has one slot for each of its clauses. A definition whose query cannot be read is skipped
with all that is in it, but that is noted.
-/

namespace QueryLint

open QueryLint.Parser

/-! ### Slots of a block -/

namespace ClauseContent

def form : ClauseContent → ClauseForm
  | .expression _ => .expression
  | .grouping _ => .grouping
  | .ordering _ => .ordering
  | .windows _ => .windows

def nodes : ClauseContent → List Node
  | .expression e => e.present
  | .grouping exprs => exprNodes exprs
  | .ordering items => orderNodes items
  | .windows list => list.map fun window => .window window.spec

end ClauseContent

/-- Whether what a clause reads has a place in a slot that belongs to the tree. -/
def ClauseForm.suits : ClauseForm → ClauseSlot → Bool
  | .expression, .where | .expression, .having | .expression, .limit | .expression, .offset
  | .expression, .qualify | .grouping, .groupBy | .ordering, .orderBy | .windows, .window => true
  | _, _ => false

/-- A dialect whose clauses each have a slot of their own. -/
structure Dialect.Slotted (dialect : Dialect) : Prop where
  found : ∀ rule ∈ dialect.clauses, dialect.clause? rule.kind = some rule
  suits : ∀ rule ∈ dialect.clauses, ∀ form ∈ rule.form, form.suits rule.slot = true
  distinct : (dialect.clauses.map ClauseRule.slot).Nodup

theorem Dialect.bigQuery_slotted : bigQuery.Slotted := by
  constructor <;> decide +kernel

namespace SelectBlock

def slotNodes (block : SelectBlock) : ClauseSlot → List Node
  | .where => optionNodes block.filter
  | .groupBy => exprNodes block.groupBy
  | .having => optionNodes block.having
  | .window => block.windows.map fun window => .window window.spec
  | .orderBy => orderNodes block.orderBy
  | .limit => optionNodes block.limit
  | .offset => optionNodes block.offset
  | .qualify => optionNodes block.qualify
  | .extensions => []

variable {offset : Int} {block : SelectBlock} {slot : ClauseSlot} {slots : List ClauseSlot}
  {content : ClauseContent}

/-- A block accounts for an offset with its items, its source or a slot that is not listed. -/
def RetainedOutside (offset : Int) (slots : List ClauseSlot) (block : SelectBlock) : Prop :=
  RetainedIn offset (block.items.flatMap SelectItem.nodes) ∨
    RetainedIn offset (block.source.toList.map .source) ∨
      ∃ slot, slot ∉ slots ∧ RetainedIn offset (block.slotNodes slot)

theorem RetainedOutside.of_cons (retained : block.RetainedOutside offset (slot :: slots)) :
    block.RetainedOutside offset slots :=
  retained.imp_right <| Or.imp_right fun ⟨other, outside, kept⟩ =>
    ⟨other, fun listed => outside (List.mem_cons_of_mem _ listed), kept⟩

theorem RetainedOutside.children (retained : block.RetainedOutside offset []) :
    RetainedIn offset block.children := by
  simp only [SelectBlock.children, retainedIn_append]
  rcases retained with items | source | ⟨slot, _, kept⟩
  · simp only [items, true_or]
  · simp only [source, true_or, or_true]
  · cases slot with
    | extensions => exact absurd kept retainedIn_nil
    | _ =>
      simp only [slotNodes] at kept
      simp only [kept, true_or, or_true]

theorem items_assign : (block.assign slot content).items = block.items := by
  unfold assign
  split <;> rfl

theorem source_assign : (block.assign slot content).source = block.source := by
  unfold assign
  split <;> rfl

theorem slotNodes_assign_of_ne {other : ClauseSlot} (different : other ≠ slot) :
    (block.assign slot content).slotNodes other = block.slotNodes other := by
  unfold assign
  split <;> cases other <;> first | rfl | exact absurd rfl different

theorem slotNodes_assign (suits : content.form.suits slot = true) :
    (block.assign slot content).slotNodes slot = content.nodes := by
  cases content <;> cases slot <;> first | exact List.flatMap_singleton .. | rfl | cases suits

theorem RetainedOutside.assign (retained : block.RetainedOutside offset (slot :: slots))
    (content : ClauseContent) : (block.assign slot content).RetainedOutside offset slots := by
  unfold RetainedOutside at retained ⊢
  rw [items_assign, source_assign]
  refine retained.imp_right <| Or.imp_right fun ⟨other, outside, kept⟩ => ?_
  rw [List.mem_cons, not_or] at outside
  exact ⟨other, outside.2, (slotNodes_assign_of_ne outside.1).symm ▸ kept⟩

theorem retainedOutside_assign (suits : content.form.suits slot = true) (other : slot ∉ slots)
    (retained : RetainedIn offset content.nodes) :
    (block.assign slot content).RetainedOutside offset slots :=
  .inr (.inr ⟨slot, other, (slotNodes_assign suits).symm ▸ retained⟩)

theorem RetainedOutside.orderByPosition (retained : block.RetainedOutside offset slots)
    (orderByPosition : Position) :
    { block with orderByPosition }.RetainedOutside offset slots :=
  retained.imp_right <| Or.imp_right fun ⟨slot, outside, kept⟩ => by
    refine ⟨slot, outside, ?_⟩
    cases slot <;> exact kept

end SelectBlock

theorem Expr.Retained.starredTable {offset : Int} {e : Expr} (retained : e.Retained offset) :
    (Grammar.starredTable e).isEmpty = true := by
  cases e with
  | star span path =>
    obtain ⟨node, member, below, lower, kept⟩ := retained.kept
    obtain rfl : node = .expr (.star span path) := List.mem_singleton.1 member
    unfold Node.descendants Node.walk at lower
    obtain rfl : below = .expr (.star span path) := by
      simpa [Node.children, Expr.children] using lower
    rcases kept with ⟨rfl, _⟩ | ⟨_, impossible, _⟩
    · rfl
    · cases impossible
  | _ => rfl

namespace Grammar

variable {source : Text.Bytes} {input : ParserInput} (formed : input.WellFormed)
  (laid : input.Laid source) (slotted : input.dialect.Slotted) {place lo : Nat}
  {grammar halting : Grammar} (retentive : grammar.Retentive input place lo halting)
  {s : ParserState}

include formed retentive

/-! ### Select items -/

theorem starModifiers_retains : RetainsAll input place lo grammar.starModifiers
    halting.starModifiers
    fun modifiers => RetainedIn (input.offset place) (modifiers.flatMap StarModifier.nodes) := by
  have step (s : ParserState) (after : lo ≤ s.index) (inside : s.index < input.tokens.size) :
      Retains input place s.index False s grammar.nextStarModifier halting.nextStarModifier
        fun found => ∃ modifier ∈ found, RetainedIn (input.offset place) modifier.nodes := by
    refine .look rfl (.look rfl ?_)
    cases input.dialect.starForm? (input.token s.index).kind with
    | none => exact .pure inside nofun
    | some form =>
      refine .look rfl (.ite (fun opened => ?_) fun _ => .pure inside nofun)
      have more := lookahead_more formed (beq_iff_eq.1 opened) inside
      refine .advance more fun s₁ here₁ inside₁ => ?_
      exact (Attempt.orNote_retains (starModifier_retains formed retentive form (by omega)
        inside₁)).last (by omega) fun _ _ read => (read.resolve_left id).2
  intro s after inside
  refine .look rfl ((repeated_retains step _ s after inside).last (by omega)
    fun modifiers _ read => ?_)
  exact retainedIn_flatMap.2 (read.resolve_left id).2

theorem selectItem_retains (after : lo ≤ s.index) (inside : s.index < input.tokens.size) :
    Retains input place s.index False s grammar.selectItem halting.selectItem
      fun item => RetainedIn (input.offset place) item.nodes := by
  refine .look rfl (.accept formed inside (fun _ s₁ here₁ inside₁ => ?_) fun _ => ?_)
  · refine (starModifiers_retains formed retentive s₁ (by omega) inside₁).start (by omega)
      fun modifiers s₂ _ inside₂ => ?_
    exact .span fun span _ => .pure inside₂ fun _ _ retained => retained
  · refine (retentive.expression s after inside).start (by omega) fun e s₁ forward₁ inside₁ => ?_
    refine .ite (fun named => ?_) fun _ => ?_
    · refine (starModifiers_retains formed retentive s₁ (by omega) inside₁).bind (by omega)
        fun modifiers s₂ _ inside₂ => ?_
      refine .span fun span _ => .pure inside₂ fun _ _ read => ?_
      refine (read.resolve_left fun retained => ?_).2
      simp [retained.starredTable] at named
    · refine .same (aliasName_gives formed inside₁) fun (aliasName, aliasSpan) s₂ _ inside₂ _ => ?_
      exact .span fun span _ => .pure inside₂ fun _ _ retained => retained.kept

theorem selectItems_retains : RetainsAll input place lo grammar.selectItems halting.selectItems
    fun items => RetainedIn (input.offset place) (items.flatMap SelectItem.nodes) := by
  intro s after inside
  refine .look rfl (.look rfl ?_)
  refine (chain_retains (A := fun item => RetainedIn (input.offset place) item.nodes)
    (fun t after inside => ?_) _ s after inside).last (by omega)
      fun items _ read => retainedIn_flatMap.2 (read.resolve_left id).2
  refine (selectItem_retains formed retentive after inside).start (by omega)
    fun item t₁ _ inside₁ => ?_
  have kept : Retains input place t.index (RetainedIn (input.offset place) item.nodes) t₁
      (pure (item, false)) (pure (item, false))
      fun found => RetainedIn (input.offset place) found.1.nodes :=
    .pure inside₁ fun _ _ retained => retained
  refine .look rfl (.ite (fun _ => kept) fun _ => ?_)
  refine .accept formed inside₁ (fun _ t₂ _ inside₂ => .look rfl ?_) fun _ => kept
  exact .pure inside₂ fun _ _ retained => retained

/-! ### Clauses -/

theorem clauseContent_retains (form : ClauseForm) (after : lo ≤ s.index)
    (inside : s.index < input.tokens.size) :
    Attempt.Retains input place s.index False s (grammar.clauseContent form)
      (halting.clauseContent form)
      fun content => content.form = form ∧ RetainedIn (input.offset place) content.nodes := by
  cases form with
  | expression =>
    refine (Attempt.complete_retains (retentive.expression s after inside)).start (by omega)
      fun e s₁ _ inside₁ => ?_
    exact .pure inside₁ fun _ _ retained => ⟨rfl, retained.kept⟩
  | grouping =>
    refine .same (Attempt.expect_gives formed inside) fun _ s₁ _ inside₁ _ => ?_
    refine (Attempt.complete_retains (expressions_retains retentive s₁ (by omega)
      inside₁)).start (by omega) fun exprs s₂ _ inside₂ => ?_
    exact .pure inside₂ fun _ _ retained => ⟨rfl, retained⟩
  | ordering =>
    refine .same (Attempt.expect_gives formed inside) fun _ s₁ _ inside₁ _ => ?_
    refine (Attempt.complete_retains (orderItems_retains formed retentive s₁ (by omega)
      inside₁)).start (by omega) fun items s₂ _ inside₂ => ?_
    exact .pure inside₂ fun _ _ retained => ⟨rfl, retained⟩
  | windows =>
    refine (Attempt.commaSeparated_retains formed (fun s after inside =>
      namedWindow_retains formed retentive (Nat.le_succ_of_le after) inside) after inside).start (by omega)
        fun windows s₁ _ inside₁ => ?_
    exact .pure inside₁ fun _ _ retained => ⟨rfl, retainedIn_map.2 retained⟩

/-- A clause keeps what the block has in other slots and puts what it reads into its own. -/
theorem clause_retains {rule : ClauseRule} {slots : List ClauseSlot} {first : Nat} (mark : Nat)
    (block : SelectBlock) (found : input.dialect.clause? rule.kind = some rule)
    (suits : ∀ form ∈ rule.form, form.suits rule.slot = true) (other : rule.slot ∉ slots)
    (quiet : s.errors.length ≤ mark) (before : first ≤ s.index) (after : lo ≤ s.index)
    (inside : s.index < input.tokens.size) :
    Retains input place first (block.RetainedOutside (input.offset place) (rule.slot :: slots)) s
      (grammar.clause mark block rule.kind) (halting.clause mark block rule.kind)
      fun result => ∃ block', result = some block' ∧
        block'.RetainedOutside (input.offset place) slots := by
  refine .look rfl ?_
  rw [found]
  obtain ⟨kind, form, slot, keywords, inline⟩ := rule
  cases form with
  | none => exact .failed (fault_gives inside _)
  | some form =>
    refine .look rfl ((Retains.alike (advance_yields inside)).seq fun _ s₁ _ moves₁ => ?_)
    have forward₁ := moves₁.forward
    have contents : Retains input place s₁.index False s₁ (grammar.clauseContent form).run
        (halting.clauseContent form).run _ :=
      clauseContent_retains formed retentive form (by omega) moves₁.inside
    refine (contents.frame (by omega)).seq fun result s₂ _ moves₂ => ?_
    cases result with
    | ok content =>
      refine .pure moves₂.inside fun _ _ read _ _ => ⟨_, rfl, ?_⟩
      have assigned : (block.assign slot content).RetainedOutside (input.offset place) slots := by
        rcases read with retained | ⟨_, content⟩
        · exact retained.assign _
        · obtain ⟨formed, retained⟩ := content _ rfl
          refine SelectBlock.retainedOutside_assign ?_ other retained
          rw [formed]
          exact suits form rfl
      split
      · exact assigned.orderByPosition _
      · exact assigned
    | error error =>
      refine .look rfl ?_
      by_cases failed : mark < s₂.errors.length
      · rw [decide_eq_true failed]
        refine .pure moves₂.inside fun _ _ _ quiet₂ quiet₁ => ?_
        rw [quiet₂.errors, quiet₁.errors] at failed
        exact absurd quiet (Nat.not_le_of_lt failed)
      · rw [decide_eq_false failed]
        exact .failed (addError_gives moves₂.inside error)

theorem clausesFrom_retains {first : Nat} (mark : Nat) (rules : List ClauseRule)
    (block : SelectBlock) (found : ∀ rule ∈ rules, input.dialect.clause? rule.kind = some rule)
    (suits : ∀ rule ∈ rules, ∀ form ∈ rule.form, form.suits rule.slot = true)
    (distinct : (rules.map ClauseRule.slot).Nodup) (quiet : s.errors.length ≤ mark)
    (before : first ≤ s.index) (after : lo ≤ s.index) (inside : s.index < input.tokens.size) :
    Retains input place first
      (block.RetainedOutside (input.offset place) (rules.map ClauseRule.slot)) s
      (grammar.clausesFrom mark rules block) (halting.clausesFrom mark rules block)
      fun block' => RetainedIn (input.offset place) block'.children := by
  induction rules generalizing s block with
  | nil =>
    refine .same (leftoverClause_gives inside) fun _ s₁ _ inside₁ _ => ?_
    exact .pure inside₁ fun _ _ retained => retained.children
  | cons rule rules ih =>
    rw [List.map_cons, List.nodup_cons] at distinct
    have ih := fun {s} block => ih (s := s) block
      (fun rule member => found rule (List.mem_cons_of_mem _ member))
      (fun rule member => suits rule (List.mem_cons_of_mem _ member)) distinct.2
    refine .look rfl (.ite (fun _ => ?_) fun _ => ?_)
    · refine (clause_retains formed retentive mark block (found rule List.mem_cons_self)
        (suits rule List.mem_cons_self) distinct.1 quiet before after inside).seq
          fun result s₁ run moves => ?_
      have forward := moves.forward
      cases result with
      | none => exact .pure moves.inside (by simp)
      | some block' =>
        have clean : s₁.errors = s.errors :=
          ((clause_yields formed retentive.sound mark block rule.kind quiet before after
            inside).of_run run).2.1
        refine (ih block' (clean ▸ quiet) (by omega) (by omega) moves.inside).mono ?_
          fun _ retained _ => retained
        rintro ⟨_, ⟨⟩, retained⟩
        exact retained
    · exact (ih block quiet before after inside).mono (fun retained => retained.of_cons)
        fun _ => id

include slotted in
theorem clauses_retains {first : Nat} (block : SelectBlock) (before : first ≤ s.index)
    (after : lo ≤ s.index) (inside : s.index < input.tokens.size) :
    Retains input place first (block.RetainedOutside (input.offset place)
      (input.dialect.clauses.map ClauseRule.slot)) s (grammar.clauses block) (halting.clauses block)
      fun block' => RetainedIn (input.offset place) block'.children :=
  .look rfl (.look rfl (clausesFrom_retains formed retentive _ _ block slotted.found slotted.suits
    slotted.distinct (Nat.le_refl _) before after inside))

/-! ### Select blocks -/

include laid

theorem selectSource_retains (after : lo ≤ s.index + 1) (inside : s.index < input.tokens.size) :
    Retains input place s.index False s grammar.selectSource halting.selectSource
      fun source => RetainedIn (input.offset place) (source.toList.map .source) := by
  refine .accept formed inside (fun _ s₁ here₁ inside₁ => ?_) fun _ => .pure inside nofun
  refine (fromClause_retains formed laid retentive (by omega) inside₁).start (by omega)
    fun source s₂ _ inside₂ => ?_
  exact .pure inside₂ fun _ _ retained => retainedIn_cons.2 (.inl retained)

include slotted

theorem selectBlock_retains (after : lo ≤ s.index + 1) (inside : s.index < input.tokens.size) :
    Retains input place s.index False s grammar.selectBlock halting.selectBlock
      fun block => (Node.block block).Retains (input.offset place) := by
  refine .look rfl (.expect formed inside (fun _ s₁ here₁ inside₁ => ?_) ⟨_, rfl⟩)
  refine .same (accept_gives inside₁ _) fun distinct s₂ forward₂ inside₂ _ => ?_
  refine .same ((accept_gives inside₂ _).discard.when inside₂ _) fun _ s₃ forward₃ inside₃ _ => ?_
  refine .same (rowShape_gives inside₃) fun asKind s₄ forward₄ inside₄ _ => ?_
  refine (selectItems_retains formed retentive s₄ (by omega) inside₄).start (by omega)
    fun items s₅ forward₅ inside₅ => ?_
  refine (selectSource_retains formed laid retentive (by omega) inside₅).bind (by omega)
    fun source s₆ forward₆ inside₆ => ?_
  have clauses : Retains input place s.index _ s₆ _ _ _ := clauses_retains formed slotted retentive
    { SelectBlock.empty with distinct, asKind, items, source } (by omega) (by omega) inside₆
  refine (clauses.mono ?_ fun _ => id).seq fun block s₇ _ moves => ?_
  · exact Or.imp_right fun retained => .inl retained.2
  · exact .span fun span _ => .pure moves.inside fun _ _ retained _ => .of_children retained

/-! ### Set operations -/

theorem queryOperand_retains (after : lo ≤ s.index + 1) (inside : s.index < input.tokens.size) :
    Retains input place s.index False s grammar.queryOperand halting.queryOperand
      fun operand => operand.node.Retains (input.offset place) := by
  refine .accept formed inside (fun _ s₁ here₁ inside₁ => ?_) fun _ => ?_
  · refine (retentive.query s₁ (by omega) inside₁).start (by omega) fun query s₂ _ inside₂ => ?_
    refine .same (expected_gives formed inside₂) fun _ s₃ _ inside₃ _ => ?_
    exact .pure inside₃ fun _ _ retained => retained
  · refine (selectBlock_retains formed laid slotted retentive after inside).start (by omega)
      fun block s₁ _ inside₁ => ?_
    exact .pure inside₁ fun _ _ retained => retained

theorem readQueryBody_retains (after : lo ≤ s.index + 1) (inside : s.index < input.tokens.size) :
    Retains input place s.index False s grammar.readQueryBody halting.readQueryBody
      fun body => (Node.body body).Retains (input.offset place) := by
  refine .look rfl ((queryOperand_retains formed laid slotted retentive after inside).start (by omega)
    fun operand s₁ forward₁ inside₁ => .look rfl ?_)
  cases found : setOperator? (input.token s₁.index).kind with
  | none =>
    refine .span fun span _ => .pure inside₁ fun _ _ retained => .of_children ?_
    exact retainedIn_cons.2 (.inl retained)
  | some operator =>
    have more : s₁.index + 1 < input.tokens.size := by
      refine formed.more inside₁ rfl fun last => ?_
      rw [last] at found
      cases found
    refine .advance more fun s₂ here₂ inside₂ => ?_
    refine .same (accept_gives inside₂ _) fun all s₃ forward₃ inside₃ _ => ?_
    refine .same ((accept_gives inside₃ _).discard.when inside₃ _)
      fun _ s₄ forward₄ inside₄ _ => ?_
    refine (retentive.queryBody s₄ (by omega) inside₄).bind (by omega) fun right s₅ _ inside₅ => ?_
    refine .span fun span _ => .pure inside₅ fun _ _ read => .of_children ?_
    simp only [Node.children, retainedIn_cons]
    exact read.imp_right fun retained => .inl retained.2

/-! ### Definitions -/

omit laid slotted retentive in
/-- The rest of a definition behind its query notes nothing only if the query was read. -/
theorem endQuery_quiet {s t s' : ParserState} {opening : Nat} {query : Query}
    {answer : Option Query × Bool} (moves : s.Moves input t) (opened : s.index = opening + 1)
    (run : (do
      when (!(← failedSince s.errors.length)) (discard <| expect Symbol.rightParen)
      if ← failedSince s.errors.length then skipQuery opening s.errors.length query
      else return (some query, true) : Parser _) input t = some (answer, s')) :
    s.Moves input s' ∧ (s.Quiet s' → s.Quiet t ∧ t.index ≤ s'.index ∧ answer = (some query, true)) := by
  rw [bind_eq (failedSince_eq _)] at run
  obtain ⟨_, u, run₁, run⟩ := bind_eq_some run
  rw [bind_eq (failedSince_eq _)] at run
  have closes : Gives input t (when (!decide (s.errors.length < t.errors.length))
      (discard <| expect Symbol.rightParen)) fun _ _ => True :=
    (Gives.when moves.inside (expect_gives formed moves.inside).discard _).mono
      fun _ _ _ _ => trivial
  have moves₁ := (closes.of_run run₁).1
  by_cases failed : s.errors.length < u.errors.length
  · rw [if_pos (decide_eq_true failed)] at run
    obtain ⟨answer', s'', run', moves', _⟩ :=
      skipQuery_yields (moves.trans moves₁) failed opened query
    rw [run'] at run
    cases run
    refine ⟨moves', fun quiet => ?_⟩
    -- the errors are noted as recovered, or they remain
    cases closing : input.closing? opening with
    | none =>
      rw [skipQuery_eq_self query closing] at run'
      cases run'
      rw [quiet.errors] at failed
      exact absurd failed (Nat.lt_irrefl _)
    | some closing' =>
      rw [skipQuery_eq query closing] at run'
      cases run'
      have same := congrArg List.length quiet.recovered
      have grown := (moves.trans moves₁).skipped.length_le
      simp only [List.length_append, List.length_drop] at same
      omega
  · rw [if_neg (by simp [failed])] at run
    cases run
    refine ⟨moves.trans moves₁, fun quiet => ⟨(moves.quiet moves₁ quiet).1, moves₁.forward, rfl⟩⟩

omit laid slotted in
theorem cteQuery_retains (after : lo ≤ s.index + 1) (inside : s.index < input.tokens.size) :
    Retains input place s.index False s grammar.cteQuery halting.cteQuery
      fun found => ∃ query ∈ found.1, (Node.query query).Retains (input.offset place) := by
  refine .look rfl (.expect formed inside (fun _ s₁ here₁ inside₁ => .look rfl ?_) ⟨_, rfl⟩)
  intro answer s' run
  obtain ⟨query, t, read, rest⟩ := bind_eq_some run
  obtain ⟨moves, keeps⟩ := retentive.query s₁ (by omega) inside₁ query t read
  obtain ⟨moves', ends⟩ := endQuery_quiet formed moves here₁ rest
  refine ⟨moves', fun quiet differs => ?_⟩
  obtain ⟨quiet, forward, rfl⟩ := ends quiet
  have other : halting.query input s₁ ≠ some (query, t) := fun same =>
    differs.elim (fun impossible => impossible.2.2) fun other => other ((bind_eq same).trans rest)
  obtain ⟨later, earlier, retained⟩ := keeps quiet (.inr other)
  exact ⟨by omega, by omega, query, rfl, retained⟩

omit laid slotted in
theorem cte_retains (after : lo ≤ s.index + 1) (inside : s.index < input.tokens.size) :
    Retains input place s.index False s grammar.cte halting.cte
      fun cte => (Node.cte cte).Retains (input.offset place) := by
  refine .look rfl (.ite (fun _ => .failed (unexpected_gives inside _)) fun word => ?_)
  have more := isWord_more formed inside (by simpa using word)
  refine .advance more fun s₁ here₁ inside₁ => ?_
  refine .same (cteColumns_gives formed inside₁) fun columns s₂ forward₂ inside₂ _ => ?_
  cases columns with
  | none => exact .pure inside₂ nofun
  | some columns =>
    refine .expect formed inside₂ (fun _ s₃ here₃ inside₃ => ?_) ⟨_, rfl⟩
    refine (cteQuery_retains formed retentive (by omega) inside₃).start (by omega)
      fun (query, complete) s₄ _ inside₄ => ?_
    cases complete with
    | false =>
      exact .pure inside₄ fun _ _ retained => .of_children (retainedIn_map.2 (by simpa using retained))
    | true =>
      refine .span fun span _ => .pure inside₄ fun _ _ retained => ?_
      exact .of_children (retainedIn_map.2 (by simpa using retained))

omit laid slotted in
theorem withClause_retains (found : (input.token s.index).kind = Keyword.WITH)
    (after : lo ≤ s.index + 1) (inside : s.index < input.tokens.size) :
    Retains input place s.index False s grammar.withClause halting.withClause
      fun definitions => (Node.definitions definitions).Retains (input.offset place) := by
  refine .look rfl (.found formed inside found fun s₁ here₁ inside₁ => ?_)
  refine .same (accept_gives inside₁ _) fun recursive s₂ forward₂ inside₂ _ => ?_
  have all : RetainsAll input place lo _ _ _ := fun _ after inside =>
    cte_retains formed retentive (Nat.le_succ_of_le after) inside
  refine (commaSeparated_retains all s₂ (by omega) inside₂).start (by omega)
    fun ctes s₃ _ inside₃ => ?_
  refine .span fun span _ => .pure inside₃ fun _ _ retained => .of_children ?_
  exact retainedIn_map.2 retained

theorem readQuery_retains (after : lo ≤ s.index + 1) (inside : s.index < input.tokens.size) :
    Retains input place s.index False s grammar.readQuery halting.readQuery
      fun query => (Node.query query).Retains (input.offset place) := by
  have definitions : Retains input place s.index False s grammar.queryDefinitions
      halting.queryDefinitions
      fun definitions => RetainedIn (input.offset place) (definitions.toList.map .definitions) := by
    refine .look rfl (.ite (fun found => ?_) fun _ => .pure inside nofun)
    refine (withClause_retains formed retentive (beq_iff_eq.1 found) after inside).start (by omega)
      fun definitions s₁ _ inside₁ => ?_
    exact .pure inside₁ fun _ _ retained => retainedIn_cons.2 (.inl retained)
  refine .look rfl (definitions.start (by omega) fun definitions s₁ forward₁ inside₁ => ?_)
  refine (readQueryBody_retains formed laid slotted retentive (by omega) inside₁).bind (by omega)
    fun body s₂ _ inside₂ => ?_
  refine .span fun span _ => .pure inside₂ fun _ _ read => .of_children ?_
  simp only [Node.children, retainedIn_append]
  exact read.imp_right fun retained => retainedIn_cons.2 (.inl retained.2)

end Grammar

end QueryLint
