import QueryLint.Proofs.Parser.Expressions
import QueryLint.Proofs.Parser.Sources

/-!
What queries read: select items and clauses, set operations and definitions. A definition whose
query was skipped still takes up its tokens, up to the parenthesis that closes it. With that the
nesting productions of each level do what is asked of those below it, so the parser as a whole
never runs out of levels.
-/

namespace QueryLint

namespace Grammar

open QueryLint.Parser

variable {input : ParserInput} (formed : input.WellFormed) {grammar : Grammar} {lo : Nat}
  (sound : grammar.Sound input lo) {s : ParserState}

include formed

theorem lookahead_more {kind : TokenKind} (found : (input.token (s.index + 1)).kind = kind)
    (inside : s.index < input.tokens.size) [inner : kind.Inner] :
    s.index + 1 < input.tokens.size := by
  refine Nat.lt_of_not_le fun beyond => inner.ne_endOfInput ?_
  have last : input.token (s.index + 1) = input.token s.index := by
    have here : input.tokens.size - 1 = s.index := by omega
    simp only [ParserInput.token, Array.getElem?_eq_none beyond, Array.back?_eq_getElem?, here,
      Array.getElem?_eq_getElem inside, Option.getD_some, Option.getD_none]
  rw [← found, last]
  exact (formed.ends s.index inside).2 (by omega)

include sound

/-! ### Select items -/

omit formed sound in
theorem widens_modifier : Widens (ModifierPlaced input) :=
  fun _ _ _ _ _ after before placed =>
    ⟨placed.1, fun node member => (placed.2 node member).widen after before⟩

theorem nextStarModifier_takes (after : lo ≤ s.index + 1) (inside : s.index < input.tokens.size) :
    Takes input s grammar.nextStarModifier (ModifierPlaced input) := by
  refine .look rfl (.look rfl ?_)
  split
  next => exact .none inside
  next form _ =>
    refine .look rfl ?_
    split
    next opened =>
      have more := lookahead_more formed (beq_iff_eq.1 opened) inside
      have gives := Attempt.orNote_gives (starModifier_gives formed sound form
        (s := s.next) (by simp only [ParserState.next_index]; omega) more)
      refine Yields.step (advance_eq more) (Yields.mono gives fun found s' moves read => ?_)
      refine ⟨fun _ => moves.forward, fun clean modifier member => ?_⟩
      obtain ⟨_, rfl, placed⟩ := read clean
      cases member
      exact widens_modifier (Nat.le_succ _) (Nat.le_refl _) placed
    next => exact .none inside

theorem starModifiers_gives (after : lo ≤ s.index) (inside : s.index < input.tokens.size) :
    Gives input s grammar.starModifiers fun modifiers s' =>
      ∀ modifier ∈ modifiers, ModifierPlaced input s.index s'.index modifier :=
  .look rfl (repeated_gives widens_modifier
    (fun _ after inside => nextStarModifier_takes formed sound (Nat.le_succ_of_le after) inside) _ s
      after inside (Nat.lt_succ_self _))

omit formed sound in
theorem covers_item {item : SelectItem} {i j : Nat} (nonempty : i < j)
    (spanned : item.span = input.cover i j) (whole : item.Whole)
    (below : AllWithin input i j item.nodes) : Covers input i j (.item item) := by
  refine ⟨nonempty, spanned, whole, fun child member => ?_⟩
  obtain ⟨node, listed, rfl⟩ := List.mem_map.1 member
  exact below node listed

theorem selectItem_gives (after : lo ≤ s.index) (inside : s.index < input.tokens.size) :
    Gives input s grammar.selectItem fun item s' => Covers input s.index s'.index (.item item) := by
  refine .look rfl (.accept formed inside (fun _ s₁ here₁ inside₁ => ?_) fun _ => ?_)
  · refine (starModifiers_gives formed sound (by omega) inside₁).bind
      fun modifiers s₂ forward₂ inside₂ => .span fun span spanned => .pure inside₂ fun _ read => ?_
    refine covers_item (by omega) (spanned (by omega)) (fun modifier member =>
      (read modifier member).1) (.flatMap fun modifier member node listed => ?_)
    exact ((read modifier member).2 node listed).widen (by omega) (Nat.le_refl _)
  · refine (sound.expression after inside).bind fun e s₁ forward₁ inside₁ => ?_
    split
    next named =>
      refine (starModifiers_gives formed sound (by omega) inside₁).bind
        fun modifiers s₂ forward₂ inside₂ => .span fun span spanned => ?_
      refine .pure inside₂ fun _ read _ expressed => ?_
      have nonempty := expressed.2.nonempty
      refine covers_item (by omega) (spanned (by omega)) ⟨by simpa using named,
        fun modifier member => (read modifier member).1⟩ ?_
      exact .flatMap fun modifier member node listed =>
        ((read modifier member).2 node listed).widen (by omega) (Nat.le_refl _)
    next =>
      refine (aliasName_gives formed inside₁).bind fun (aliasName, aliasSpan) s₂ forward₂ inside₂ => ?_
      refine .span fun span spanned => .pure inside₂ fun _ _ _ read => ?_
      have nonempty := read.2.nonempty
      exact covers_item (by omega) (spanned (by omega)) read.1
        (read.placed (Nat.le_refl _) (by omega)).present

omit formed sound in
theorem widens_item : Widens fun i j (item : SelectItem) => Within input i j (.item item) :=
  fun _ _ _ _ _ after before within => within.widen after before

theorem selectItems_gives (after : lo ≤ s.index) (inside : s.index < input.tokens.size) :
    Gives input s grammar.selectItems fun items s' =>
      items ≠ [] ∧ ∀ item ∈ items, Within input s.index s'.index (.item item) := by
  refine .look rfl (.look rfl ?_)
  refine chain_gives widens_item (fun t after inside => ?_) _ s after inside (Nat.lt_succ_self _)
  refine Yields.bind (selectItem_gives formed sound after inside) fun item t' moves read => .look rfl ?_
  have within (clean : t'.errors = t.errors) : Within input t.index t'.index (.item item) :=
    (read clean).within (Nat.le_refl _) (Nat.le_refl _)
  split
  · exact ⟨(item, false), t', rfl, .refl moves.inside, nofun, within⟩
  · refine .accept formed moves.inside (fun _ more => .look rfl ?_) fun _ => ?_
    · exact ⟨_, t'.next, rfl, .refl more, fun _ => Nat.lt_succ_of_le moves.forward,
        fun clean => (within clean).widen (Nat.le_refl _) (Nat.le_succ _)⟩
    · exact ⟨(item, false), t', rfl, .refl moves.inside, nofun, within⟩

omit formed sound in
theorem rowShape_gives (inside : s.index < input.tokens.size) :
    Gives input s rowShape fun _ _ => True := by
  refine .look rfl ?_
  split
  · refine .look rfl ?_
    dsimp only
    split
    · refine (advance_gives inside).bind fun _ s₁ _ inside₁ => ?_
      refine (advance_gives inside₁).bind fun _ s₂ _ inside₂ => ?_
      exact .pure inside₂ fun _ _ _ _ => trivial
    · exact .pure inside trivial
  · exact .pure inside trivial

/-! ### Clauses -/

def ContentPlaced (input : ParserInput) (i j : Nat) : ClauseContent → Prop
  | .expression e => e.Placed input i j
  | .grouping exprs => ∀ e ∈ exprs, e.Placed input i j
  | .ordering items => ∀ item ∈ items, item.expr.Placed input i j
  | .windows windows => ∀ window ∈ windows, Within input i j (.node (.window window.spec))

omit formed sound in
theorem ContentPlaced.widen {content : ClauseContent} {i i' j j' : Nat}
    (placed : ContentPlaced input i' j' content) (after : i ≤ i') (before : j' ≤ j) :
    ContentPlaced input i j content := by
  cases content with
  | expression e => exact Expr.Placed.widen placed after before
  | grouping exprs => exact fun e member => (placed e member).widen after before
  | ordering items => exact fun item member => (placed item member).widen after before
  | windows windows => exact fun window member => (placed window member).widen after before

omit formed sound in
theorem widens_window : Widens fun i j (window : NamedWindow) =>
    Within input i j (.node (.window window.spec)) :=
  fun _ _ _ _ _ after before within => within.widen after before

theorem clauseContent_gives (form : ClauseForm) (after : lo ≤ s.index)
    (inside : s.index < input.tokens.size) :
    Attempt.Gives input s (grammar.clauseContent form) fun content s' =>
      ContentPlaced input s.index s'.index content := by
  cases form with
  | expression =>
    refine (Attempt.complete_gives (sound.expression after inside)).bind
      fun e s₁ forward₁ inside₁ read => .pure inside₁ ?_
    exact read.placed (Nat.le_refl _) (Nat.le_refl _)
  | grouping =>
    refine (Attempt.expect_gives formed inside).bind fun _ s₁ forward₁ inside₁ _ => ?_
    refine (Attempt.complete_gives (expressions_gives formed sound (by omega) inside₁)).bind
      fun exprs s₂ forward₂ inside₂ read => .pure inside₂ fun e member => ?_
    exact (read.2 e member).widen (by omega) (Nat.le_refl _)
  | ordering =>
    refine (Attempt.expect_gives formed inside).bind fun _ s₁ forward₁ inside₁ _ => ?_
    refine (Attempt.complete_gives (orderItems_gives formed sound (by omega) inside₁)).bind
      fun items s₂ forward₂ inside₂ read => .pure inside₂ fun item member => ?_
    exact (read item member).widen (by omega) (Nat.le_refl _)
  | windows =>
    refine (Attempt.commaSeparated_gives formed widens_window (fun _ after inside =>
      namedWindow_gives formed sound (Nat.le_succ_of_le after) inside) after inside).bind
        fun windows s₁ forward₁ inside₁ read => .pure inside₁ ?_
    exact read.2

/-- A block whose parts were read in a range of tokens. -/
structure BlockPlaced (input : ParserInput) (i j : Nat) (block : SelectBlock) : Prop where
  selects : block.items ≠ []
  items : ∀ item ∈ block.items, Within input i j (.item item)
  source : ∀ source ∈ block.source, Within input i j (.node (.source source))
  filter : ∀ e ∈ block.filter, e.Placed input i j
  groupBy : ∀ e ∈ block.groupBy, e.Placed input i j
  having : ∀ e ∈ block.having, e.Placed input i j
  windows : ∀ window ∈ block.windows, Within input i j (.node (.window window.spec))
  qualify : ∀ e ∈ block.qualify, e.Placed input i j
  orderBy : ∀ item ∈ block.orderBy, item.expr.Placed input i j
  limit : ∀ e ∈ block.limit, e.Placed input i j
  offset : ∀ e ∈ block.offset, e.Placed input i j
  extensions : ∀ e ∈ block.extensions, e.Placed input i j

namespace BlockPlaced

variable {block : SelectBlock} {i j j' : Nat}

omit formed sound in
theorem widen (placed : BlockPlaced input i j' block) (before : j' ≤ j) :
    BlockPlaced input i j block where
  selects := placed.selects
  items item member := (placed.items item member).widen (Nat.le_refl _) before
  source source member := (placed.source source member).widen (Nat.le_refl _) before
  filter e member := (placed.filter e member).widen (Nat.le_refl _) before
  groupBy e member := (placed.groupBy e member).widen (Nat.le_refl _) before
  having e member := (placed.having e member).widen (Nat.le_refl _) before
  windows window member := (placed.windows window member).widen (Nat.le_refl _) before
  qualify e member := (placed.qualify e member).widen (Nat.le_refl _) before
  orderBy item member := (placed.orderBy item member).widen (Nat.le_refl _) before
  limit e member := (placed.limit e member).widen (Nat.le_refl _) before
  offset e member := (placed.offset e member).widen (Nat.le_refl _) before
  extensions e member := (placed.extensions e member).widen (Nat.le_refl _) before

omit formed sound in
theorem assign (placed : BlockPlaced input i j block) {content : ClauseContent}
    (contained : ContentPlaced input i j content) (slot : ClauseSlot) :
    BlockPlaced input i j (block.assign slot content) := by
  have only {e : Expr} (given : e.Placed input i j) : ∀ e' ∈ some e, e'.Placed input i j := by
    rintro e' ⟨⟩
    exact given
  unfold SelectBlock.assign
  split
  · exact { placed with filter := only contained }
  · exact { placed with groupBy := contained }
  · exact { placed with having := only contained }
  · exact { placed with windows := contained }
  · exact { placed with orderBy := contained }
  · exact { placed with limit := only contained }
  · exact { placed with offset := only contained }
  · exact { placed with qualify := only contained }
  · refine { placed with extensions := fun e member => ?_ }
    rcases List.mem_append.1 member with member | member
    · exact placed.extensions e member
    · rw [List.mem_singleton.1 member]
      exact contained
  · exact placed

omit formed sound in
theorem whole (placed : BlockPlaced input i j block) : block.Whole :=
  ⟨placed.selects, fun e member => (placed.filter e member).1,
    fun e member => (placed.groupBy e member).1, fun e member => (placed.having e member).1,
    fun e member => (placed.qualify e member).1, fun item member => (placed.orderBy item member).1,
    fun e member => (placed.limit e member).1, fun e member => (placed.offset e member).1,
    fun e member => (placed.extensions e member).1⟩

omit formed sound in
theorem covers (placed : BlockPlaced input i j block) (nonempty : i < j)
    (spanned : block.span = input.cover i j) : Covers input i j (.node (.block block)) := by
  have clauses : AllWithin input i j block.clauseNodes := by
    simp only [SelectBlock.clauseNodes, allWithin_append]
    exact ⟨⟨⟨⟨⟨⟨⟨⟨⟨.map fun source member => placed.source source (Option.mem_toList.1 member),
      allWithin_optionNodes placed.filter⟩, allWithin_exprNodes placed.groupBy⟩,
      allWithin_optionNodes placed.having⟩, .map placed.windows⟩,
      allWithin_optionNodes placed.qualify⟩, allWithin_orderNodes placed.orderBy⟩,
      allWithin_optionNodes placed.limit⟩, allWithin_optionNodes placed.offset⟩,
      allWithin_exprNodes placed.extensions⟩
  refine ⟨nonempty, spanned, placed.whole, fun child member => ?_⟩
  rcases List.mem_append.1 member with member | member
  · obtain ⟨item, listed, rfl⟩ := List.mem_map.1 member
    exact placed.items item listed
  · obtain ⟨node, listed, rfl⟩ := List.mem_map.1 member
    exact clauses node listed

end BlockPlaced

omit formed sound in
theorem leftoverClause_gives (inside : s.index < input.tokens.size) :
    Gives input s leftoverClause fun _ _ => True := by
  refine .look rfl (.look rfl ?_)
  split
  · exact (fault_gives inside _).mono fun _ _ _ impossible => impossible.elim
  · split
    · exact (fault_gives inside _).mono fun _ _ _ impossible => impossible.elim
    · exact .pure inside trivial

/-- A clause either extends the block and notes no error, or it notes one. -/
theorem clause_yields {i : Nat} (mark : Nat) (block : SelectBlock) (kind : TokenKind)
    (quiet : s.errors.length ≤ mark) (before : i ≤ s.index) (after : lo ≤ s.index)
    (inside : s.index < input.tokens.size) :
    Yields input s (grammar.clause mark block kind) fun result s' =>
      match result with
      | some block' => s'.errors = s.errors ∧
          (BlockPlaced input i s.index block → BlockPlaced input i s'.index block')
      | none => s'.errors ≠ s.errors := by
  refine .look rfl ?_
  split
  next form slot _ _ _ =>
    refine .look rfl ((advance_yields inside).bind fun _ s₁ moves₁ clean₁ => ?_)
    have forward₁ := moves₁.forward
    refine Yields.bind (clauseContent_gives formed sound form (by omega) moves₁.inside)
      fun result s₂ moves₂ read => ?_
    have forward₂ := moves₂.forward
    cases result with
    | ok content =>
      obtain ⟨clean₂, contained⟩ := read content rfl
      refine ⟨_, s₂, rfl, .refl moves₂.inside, clean₂.trans clean₁, fun placed => ?_⟩
      have contained : ContentPlaced input i s₂.index content :=
        contained.widen (by omega) (Nat.le_refl _)
      have assigned := (placed.widen (j := s₂.index) (by omega)).assign contained slot
      split
      · exact { assigned with }
      · exact assigned
    | error error =>
      refine .look rfl (Yields.bind ((addError_gives moves₂.inside error).when moves₂.inside _)
        fun _ s₃ moves₃ noted => ⟨none, s₃, rfl, .refl moves₃.inside, fun clean => ?_⟩)
      obtain ⟨clean, clean₃⟩ := (moves₁.trans moves₂).clean moves₃ clean
      refine noted clean₃ ?_
      simp [clean, quiet]
  next =>
    refine Yields.bind (fault_gives inside _) fun _ s₁ moves noted => ?_
    exact ⟨none, s₁, rfl, .refl moves.inside, noted⟩

theorem clausesFrom_gives {i : Nat} (mark : Nat) (rules : List ClauseRule) (block : SelectBlock)
    (quiet : s.errors.length ≤ mark) (before : i ≤ s.index) (after : lo ≤ s.index)
    (inside : s.index < input.tokens.size) :
    Gives input s (grammar.clausesFrom mark rules block) fun block' s' =>
      BlockPlaced input i s.index block → BlockPlaced input i s'.index block' := by
  induction rules generalizing s block with
  | nil =>
    refine (leftoverClause_gives inside).bind fun _ s₁ forward₁ inside₁ => ?_
    exact .pure inside₁ fun _ _ placed => placed.widen forward₁
  | cons rule rules ih =>
    refine .look rfl ?_
    split
    · refine Yields.bind (clause_yields formed sound mark block rule.kind quiet before after inside)
        fun result s₁ moves₁ read => ?_
      have forward₁ := moves₁.forward
      cases result with
      | none => exact ⟨block, s₁, rfl, .refl moves₁.inside, fun clean => absurd clean read⟩
      | some block' =>
        obtain ⟨clean₁, read⟩ := read
        refine Yields.mono (ih block' (clean₁ ▸ quiet) (by omega) (by omega) moves₁.inside)
          fun block'' s₂ _ rest clean placed => ?_
        exact rest (clean.trans clean₁.symm) (read placed)
    · exact ih block quiet before after inside

theorem clauses_gives {i : Nat} (block : SelectBlock) (before : i ≤ s.index) (after : lo ≤ s.index)
    (inside : s.index < input.tokens.size) :
    Gives input s (grammar.clauses block) fun block' s' =>
      BlockPlaced input i s.index block → BlockPlaced input i s'.index block' :=
  .look rfl (.look rfl (clausesFrom_gives formed sound _ _ block (Nat.le_refl _) before after
    inside))

theorem selectSource_gives (after : lo ≤ s.index + 1) (inside : s.index < input.tokens.size) :
    Gives input s grammar.selectSource fun source s' =>
      ∀ from' ∈ source, Within input s.index s'.index (.node (.source from')) := by
  refine .accept formed inside (fun _ s₁ here₁ inside₁ => ?_) fun _ => .pure inside nofun
  refine (fromClause_gives formed sound (by omega) inside₁).bind fun source s₂ forward₂ inside₂ => ?_
  refine .pure inside₂ ?_
  rintro _ read source ⟨⟩
  exact read.within (by omega) (Nat.le_refl _)

theorem selectBlock_gives (after : lo ≤ s.index + 1) (inside : s.index < input.tokens.size) :
    Gives input s grammar.selectBlock fun block s' =>
      Covers input s.index s'.index (.node (.block block)) := by
  refine .look rfl (.expect formed inside (fun _ s₁ here₁ inside₁ => ?_)
    fun _ _ inside => .pure inside trivial)
  refine (accept_gives inside₁ _).bind fun distinct s₂ forward₂ inside₂ => ?_
  refine ((accept_gives inside₂ _).discard.when inside₂ _).bind fun _ s₃ forward₃ inside₃ => ?_
  refine (rowShape_gives inside₃).bind fun asKind s₄ forward₄ inside₄ => ?_
  refine (selectItems_gives formed sound (by omega) inside₄).bind fun items s₅ forward₅ inside₅ => ?_
  refine (selectSource_gives formed sound (by omega) inside₅).bind
    fun source s₆ forward₆ inside₆ => ?_
  refine (clauses_gives (i := s.index) formed sound _ (by omega) (by omega) inside₆).bind
    fun block s₇ forward₇ inside₇ => .span fun span spanned => ?_
  refine .pure inside₇ fun _ clauses _ sourced _ selected _ _ _ _ _ _ => ?_
  have placed : BlockPlaced input s.index s₇.index block := by
    refine clauses ⟨selected.1, fun item member => ?_, fun source member => ?_, nofun, nofun, nofun,
      nofun, nofun, nofun, nofun, nofun, nofun⟩
    · exact (selected.2 item member).widen (by omega) (by omega)
    · exact (sourced source member).widen (by omega) (by omega)
  have placed : BlockPlaced input s.index s₇.index { block with span } := { placed with }
  exact placed.covers (by omega) (spanned (by omega))

/-! ### Set operations -/

theorem queryOperand_gives (after : lo ≤ s.index + 1) (inside : s.index < input.tokens.size) :
    Gives input s grammar.queryOperand fun operand s' =>
      s.index < s'.index ∧ Within input s.index s'.index (.node operand.node) := by
  refine .accept formed inside (fun _ s₁ here₁ inside₁ => ?_) fun _ => ?_
  · refine (sound.query s₁ (by omega) inside₁).bind fun query s₂ forward₂ inside₂ => ?_
    refine (expected_gives formed inside₂).bind fun _ s₃ forward₃ inside₃ => ?_
    exact .pure inside₃ fun _ _ _ read => ⟨by omega, read.within (by omega) (by omega)⟩
  · refine (selectBlock_gives formed sound after inside).bind fun block s₁ forward₁ inside₁ => ?_
    exact .pure inside₁ fun _ read =>
      ⟨read.nonempty, read.within (Nat.le_refl _) (Nat.le_refl _)⟩

theorem readQueryBody_gives (after : lo ≤ s.index + 1) (inside : s.index < input.tokens.size) :
    Gives input s grammar.readQueryBody fun body s' =>
      Covers input s.index s'.index (.node (.body body)) := by
  refine .look rfl ((queryOperand_gives formed sound after inside).bind
    fun operand s₁ forward₁ inside₁ => .look rfl ?_)
  split
  next =>
    refine .span fun span spanned => .pure inside₁ fun _ ⟨taken, read⟩ => ?_
    exact .node taken (spanned (by omega)) trivial (allWithin_singleton.2 read) nofun
  next operator found =>
    have more : s₁.index + 1 < input.tokens.size := by
      refine formed.more inside₁ rfl fun last => ?_
      rw [last] at found
      cases found
    refine .advance more fun s₂ here₂ inside₂ => ?_
    refine (accept_gives inside₂ _).bind fun all s₃ forward₃ inside₃ => ?_
    refine ((accept_gives inside₃ _).discard.when inside₃ _).bind fun _ s₄ forward₄ inside₄ => ?_
    refine (sound.queryBody s₄ (by omega) inside₄).bind fun right s₅ forward₅ inside₅ => ?_
    refine .span fun span spanned => .pure inside₅ fun _ rest _ _ _ _ _ ⟨taken, read⟩ => ?_
    refine .node (by omega) (spanned (by omega)) trivial ?_ nofun
    intro node member
    rcases List.mem_cons.1 member with rfl | member
    · exact read.widen (Nat.le_refl _) (by omega)
    · rw [List.mem_singleton.1 member]
      exact rest.within (by omega) (Nat.le_refl _)

/-! ### Definitions -/

omit sound in
theorem cteColumns_gives (inside : s.index < input.tokens.size) :
    Gives input s cteColumns fun columns _ => columns.isSome := by
  refine .accept formed inside (fun _ s₁ _ inside₁ => ?_) fun _ => .pure inside rfl
  refine (Attempt.orNote_gives (identifiers_gives formed inside₁)).bind fun names s₂ _ inside₂ => ?_
  cases names with
  | none => exact .pure inside₂ fun _ ⟨_, impossible, _⟩ => nomatch impossible
  | some names =>
    exact .expect formed inside₂ (fun _ s₃ _ inside₃ => .pure inside₃ fun _ _ => rfl)
      fun _ _ inside => .pure inside trivial

omit formed sound in
theorem le_of_closing? {opening closing : Nat} (closes : input.closing? opening = some closing) :
    opening ≤ closing := by
  obtain ⟨offset, _, rfl⟩ := Option.map_eq_some_iff.1 closes
  exact Nat.le_add_right _ _

omit formed sound in
/-- Skipping forgets the errors since the mark and goes on after the closing parenthesis. -/
theorem skipQuery_eq {opening closing mark : Nat} (query : Query)
    (closes : input.closing? opening = some closing) :
    skipQuery opening mark query input s = some ((none, true),
      { index := min (closing + 1) (input.tokens.size - 1)
        errors := s.errors.take mark
        recovered := s.recovered ++ s.errors.drop mark }) := by
  have looked : Parser.input input s = some (input, s) := rfl
  rw [skipQuery, bind_eq looked, closes]
  rfl

omit formed sound in
theorem skipQuery_eq_self {opening mark : Nat} (query : Query)
    (unclosed : input.closing? opening = none) :
    skipQuery opening mark query input s = some ((some query, false), s) := by
  have looked : Parser.input input s = some (input, s) := rfl
  rw [skipQuery, bind_eq looked, unclosed]
  rfl

def SkippedTo (input : ParserInput) (opening i : Nat) : Prop :=
  ∃ closing, input.closing? opening = some closing ∧ i = min (closing + 1) (input.tokens.size - 1)

omit formed sound in
/-- A query that noted errors since a mark is skipped, or the errors remain. -/
theorem skipQuery_yields {t : ParserState} {opening : Nat} (moves : s.Moves input t)
    (failed : s.errors.length < t.errors.length) (opened : s.index = opening + 1) (query : Query) :
    ∃ answer s', skipQuery opening s.errors.length query input t = some (answer, s') ∧
      s.Moves input s' ∧
      (s'.errors = s.errors → answer = (none, true) ∧ SkippedTo input opening s'.index) := by
  cases closes : input.closing? opening with
  | some closing =>
    have after := le_of_closing? closes
    have inside := moves.inside
    have forward := moves.forward
    have kept : t.errors.take s.errors.length = s.errors :=
      (List.prefix_iff_eq_take.1 moves.noted).symm
    refine ⟨_, _, skipQuery_eq query closes, ⟨?_, ?_, ?_, ?_⟩, fun _ => ⟨rfl, _, closes, rfl⟩⟩
    · simp only
      omega
    · simp only
      omega
    · simp only [kept, List.prefix_rfl]
    · exact moves.skipped.trans (List.prefix_append _ _)
  | none =>
    refine ⟨_, t, skipQuery_eq_self query closes, moves, fun clean => ?_⟩
    rw [clean] at failed
    exact absurd failed (Nat.lt_irrefl _)

theorem cteQuery_gives (after : lo ≤ s.index + 1) (inside : s.index < input.tokens.size) :
    Gives input s grammar.cteQuery fun (query, complete) s' =>
      (complete = true ∧ s.index < s'.index ∧
        ∀ q ∈ query, Within input s.index s'.index (.node (.query q))) ∧
      (query = none → (input.token s.index).kind = Symbol.leftParen ∧
        SkippedTo input s.index s'.index) := by
  refine .look rfl (.expect formed inside (fun opened s₁ here₁ inside₁ => .look rfl ?_)
    fun _ _ inside => .pure inside trivial)
  obtain ⟨query, s₂, run₂, moves₂, read₂⟩ := sound.query s₁ (by omega) inside₁
  have closed : Gives input s₂ (when (!decide (s₁.errors.length < s₂.errors.length))
      (discard <| Parser.expect Symbol.rightParen)) fun _ _ => True := by
    refine Gives.mono (.when moves₂.inside (expect_gives formed moves₂.inside).discard _) ?_
    exact fun _ _ _ _ => trivial
  obtain ⟨_, s₃, run₃, moves₃, _⟩ := closed
  have moves := moves₂.trans moves₃
  by_cases failed : s₁.errors.length < s₃.errors.length
  · obtain ⟨answer, s', run, moves', skipped⟩ := skipQuery_yields moves failed here₁ query
    refine ⟨answer, s', ?_, moves', fun clean => ?_⟩
    · rw [bind_eq run₂, bind_eq (failedSince_eq _), bind_eq run₃, bind_eq (failedSince_eq _),
        if_pos (decide_eq_true failed), run]
    · obtain ⟨rfl, behind⟩ := skipped clean
      have forward := moves'.forward
      exact ⟨⟨rfl, by omega, nofun⟩, fun _ => ⟨opened, behind⟩⟩
  · refine ⟨(some query, true), s₃, ?_, moves, fun clean => ?_⟩
    · rw [bind_eq run₂, bind_eq (failedSince_eq _), bind_eq run₃, bind_eq (failedSince_eq _),
        if_neg (by simp [failed])]
      rfl
    · have forward₂ := moves₂.forward
      have forward₃ := moves₃.forward
      refine ⟨⟨rfl, by omega, ?_⟩, nofun⟩
      rintro q ⟨⟩
      exact (read₂ (moves₂.clean moves₃ clean).1).within (by omega) forward₃

/-- A definition takes up its tokens. If it has no query, the query between the parentheses behind its
`AS` was skipped. -/
theorem cte_gives (after : lo ≤ s.index + 1) (inside : s.index < input.tokens.size) :
    Gives input s grammar.cte fun cte s' => Covers input s.index s'.index (.node (.cte cte)) ∧
      (cte.query = none → ∃ columns t, cteColumns input s.next = some (some columns, t) ∧
        s.index < t.index ∧ (input.token t.index).kind = Keyword.AS ∧
        (input.token (t.index + 1)).kind = Symbol.leftParen ∧
        SkippedTo input (t.index + 1) s'.index) := by
  refine .look rfl ?_
  dsimp only
  split
  next => exact .failed (unexpected_gives inside _)
  next word =>
    have more := isWord_more formed inside (by simpa using word)
    refine Yields.step (advance_eq more) ?_
    refine (cteColumns_gives (s := s.next) formed more).traced.bind fun columns s₂ forward₂ inside₂ => ?_
    simp only [ParserState.next_index] at forward₂
    cases columns with
    | none => exact .pure inside₂ fun _ ⟨_, impossible⟩ => nomatch impossible
    | some columns =>
      refine .expect formed inside₂ (fun named s₃ here₃ inside₃ => ?_)
        fun _ _ inside => .pure inside trivial
      refine (cteQuery_gives formed sound (by omega) inside₃).bind
        fun (query, complete) s₄ forward₄ inside₄ => ?_
      cases complete with
      | false => exact .pure inside₄ fun _ ⟨⟨impossible, _⟩, _⟩ => nomatch impossible
      | true =>
        refine .span fun span spanned => .pure inside₄ ?_
        intro _ ⟨⟨_, taken, read⟩, skipped⟩ _ ⟨run, _⟩
        refine ⟨.node (by omega) (spanned (by omega)) trivial (.map fun q member => ?_) nofun,
          fun unread => ⟨columns, s₂, run, forward₂, named, here₃ ▸ skipped unread⟩⟩
        exact (read q (Option.mem_toList.1 member)).widen (by omega) (Nat.le_refl _)

omit formed sound in
theorem widens_cte : Widens fun i j (cte : Cte) => Within input i j (.node (.cte cte)) :=
  fun _ _ _ _ _ after before within => within.widen after before

theorem withClause_gives (found : (input.token s.index).kind = Keyword.WITH)
    (after : lo ≤ s.index + 1) (inside : s.index < input.tokens.size) :
    Gives input s grammar.withClause fun definitions s' =>
      Covers input s.index s'.index (.node (.definitions definitions)) := by
  refine .look rfl (.found formed inside found fun s₁ here₁ inside₁ => ?_)
  refine (accept_gives inside₁ _).bind fun recursive s₂ forward₂ inside₂ => ?_
  refine (commaSeparated_gives formed widens_cte (fun _ after inside =>
    (cte_gives formed sound (Nat.le_succ_of_le after) inside).mono fun _ _ _ read =>
      read.1.within (Nat.le_refl _) (Nat.le_refl _)) (by omega) inside₂).bind
        fun ctes s₃ forward₃ inside₃ => .span fun span spanned => .pure inside₃ fun _ read _ _ => ?_
  refine .node (by omega) (spanned (by omega)) trivial (.map fun cte member => ?_) nofun
  exact (read.2 cte member).widen (by omega) (Nat.le_refl _)

theorem queryDefinitions_gives (after : lo ≤ s.index + 1) (inside : s.index < input.tokens.size) :
    Gives input s grammar.queryDefinitions fun definitions s' =>
      ∀ d ∈ definitions, Within input s.index s'.index (.node (.definitions d)) := by
  refine .look rfl ?_
  split
  next found =>
    refine (withClause_gives formed sound (beq_iff_eq.1 found) after inside).bind
      fun definitions s₁ forward₁ inside₁ => .pure inside₁ ?_
    rintro _ read d ⟨⟩
    exact read.within (Nat.le_refl _) (Nat.le_refl _)
  next => exact .pure inside nofun

theorem readQuery_gives (after : lo ≤ s.index + 1) (inside : s.index < input.tokens.size) :
    Gives input s grammar.readQuery fun query s' =>
      Covers input s.index s'.index (.node (.query query)) := by
  refine .look rfl ((queryDefinitions_gives formed sound after inside).bind
    fun definitions s₁ forward₁ inside₁ => ?_)
  refine (readQueryBody_gives formed sound (by omega) inside₁).bind
    fun body s₂ forward₂ inside₂ => .span fun span spanned => .pure inside₂ fun _ read _ defined => ?_
  have nonempty := read.nonempty
  refine .node (by omega) (spanned (by omega)) trivial ?_ nofun
  simp only [Node.children, allWithin_append, allWithin_singleton]
  exact ⟨.map fun d member => (defined d (Option.mem_toList.1 member)).widen (by omega) (by omega),
    read.within (by omega) (Nat.le_refl _)⟩

/-! ### The grammar of an input -/

omit sound in
theorem Sound.next (sound : grammar.Sound input (lo + 1)) : grammar.next.Sound input lo where
  expressionAbove above _ after inside :=
    readExpression_gives formed sound above (Nat.succ_le_succ after) inside
  query _ after inside := readQuery_gives formed sound (Nat.succ_le_succ after) inside
  queryBody _ after inside := readQueryBody_gives formed sound (Nat.succ_le_succ after) inside

omit formed in
theorem Sound.mono {lo' : Nat} (later : lo ≤ lo') : grammar.Sound input lo' where
  expressionAbove above s after inside :=
    sound.expressionAbove above s (Nat.le_trans later after) inside
  query s after inside := sound.query s (Nat.le_trans later after) inside
  queryBody s after inside := sound.queryBody s (Nat.le_trans later after) inside

omit sound in
/-- Each level reads a token more than the one below it. -/
theorem level_sound (n : Nat) : (level n).Sound input (input.tokens.size - n) := by
  induction n with
  | zero => exact ⟨by omega, by omega, by omega⟩
  | succ n ih =>
    refine Sound.next formed (ih.mono ?_)
    omega

omit sound in
theorem ofInput_sound : (ofInput input).Sound input 0 := by
  have enough := level_sound formed (input.tokens.size + 2)
  rwa [Nat.sub_eq_zero_of_le (Nat.le_add_right _ _)] at enough

end Grammar

end QueryLint
