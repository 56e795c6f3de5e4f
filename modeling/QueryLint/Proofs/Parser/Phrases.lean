import QueryLint.Proofs.Parser.Placement

/-!
What the small productions read: lists of expressions, names, types and windows. Every production
takes the nesting ones as an argument, so what it reads is shown for a grammar whose nesting
productions are known to read what they should from some token on.
-/

namespace QueryLint

open QueryLint.Parser

/-- The nesting productions of a grammar answer from every token after the first `lo`, and what
they read takes up the tokens that they took. -/
structure Grammar.Sound (input : ParserInput) (lo : Nat) (grammar : Grammar) : Prop where
  expressionAbove (above : Precedence) (s : ParserState) (after : lo ≤ s.index)
    (inside : s.index < input.tokens.size) :
    Gives input s (grammar.expressionAbove above) fun e s' => e.Covers input s.index s'.index
  query (s : ParserState) (after : lo ≤ s.index) (inside : s.index < input.tokens.size) :
    Gives input s grammar.query fun q s' => Covers input s.index s'.index (.node (.query q))
  queryBody (s : ParserState) (after : lo ≤ s.index) (inside : s.index < input.tokens.size) :
    Gives input s grammar.queryBody fun b s' => Covers input s.index s'.index (.node (.body b))

namespace Parser

variable {input : ParserInput} {s : ParserState}

/-! ### Names -/

theorem pathWithin_yields (formed : input.WellFormed) (bound : Nat)
    (inside : s.index < input.tokens.size) (enough : input.tokens.size - s.index < bound) :
    Yields input s (pathWithin bound) fun _ s' =>
      s'.errors = s.errors ∧ (s.index + 1 < input.tokens.size → s.index < s'.index) := by
  induction bound generalizing s with
  | zero => omega
  | succ bound ih =>
    by_cases more : s.index + 1 < input.tokens.size
    · refine .look rfl (.step (advance_eq more) (.look rfl (.look rfl ?_)))
      split
      next dotted =>
        simp only [Bool.and_eq_true, beq_iff_eq] at dotted
        have more' := formed.more more dotted.1 (by decide)
        refine .step (advance_eq more') (Yields.bind (ih more' ?_) fun rest s' moves read => ?_)
        · simp only [ParserState.next_index]
          omega
        · refine ⟨_, s', rfl, .refl moves.inside, read.1, fun _ => ?_⟩
          have forward := moves.forward
          simp only [ParserState.next_index] at forward
          omega
      next => exact ⟨_, s.next, rfl, .refl more, rfl, fun _ => Nat.lt_succ_self _⟩
    · -- at the end of the input nothing is taken
      have stays : advance input s = some ((), s) := by
        simp only [advance, ParserInput.following, if_neg more]
      have last := (formed.ends s.index inside).2 (by omega)
      refine .look rfl (.look stays (.look rfl (.look rfl ?_)))
      rw [if_neg (by simp [last])]
      exact ⟨_, s, rfl, .refl inside, rfl, fun more' => absurd more' more⟩

theorem path_yields (formed : input.WellFormed) (inside : s.index < input.tokens.size) :
    Yields input s path fun _ s' =>
      s'.errors = s.errors ∧ (s.index + 1 < input.tokens.size → s.index < s'.index) :=
  .look rfl (pathWithin_yields formed _ inside (Nat.lt_succ_self _))

theorem isWord_more (formed : input.WellFormed) (inside : s.index < input.tokens.size)
    (word : (input.token s.index).isWord = true) : s.index + 1 < input.tokens.size := by
  refine formed.more inside rfl fun last => ?_
  simp [Token.isWord, last, TokenKind.isKeyword] at word

theorem identifier_gives (formed : input.WellFormed) (inside : s.index < input.tokens.size) :
    Attempt.Gives input s Attempt.identifier fun _ s' => s.index < s'.index := by
  refine .look rfl ?_
  split
  next word =>
    refine .advance (isWord_more formed inside word) fun s' here inside => ?_
    exact .pure inside (by omega)
  next => exact Attempt.unexpected_gives inside _

theorem identifiers_gives (formed : input.WellFormed) (inside : s.index < input.tokens.size) :
    Attempt.Gives input s (Attempt.commaSeparated Attempt.identifier) fun _ _ => True := by
  have any : Widens fun _ _ (_ : String) => True := fun _ _ _ _ _ _ _ _ => trivial
  exact (Attempt.commaSeparated_gives formed any (fun _ _ inside =>
    (identifier_gives formed inside).mono fun _ _ _ _ => trivial) (Nat.zero_le _) inside).mono
      fun _ _ _ _ => trivial

theorem columnRef_span (path : List PathSegment) (span : Span) :
    (PathSegment.columnRef path span).span = span := by
  unfold PathSegment.columnRef
  split <;> rfl

theorem columnRef_gives (formed : input.WellFormed) (inside : s.index < input.tokens.size) :
    Attempt.Gives input s Attempt.columnRef fun ref s' =>
      Covers input s.index s'.index (.node (.expr (.column ref))) := by
  refine .look rfl ?_
  split
  next word =>
    have more := isWord_more formed inside word
    have read : Yields input s path fun _ s' => s'.errors = s.errors ∧ s.index < s'.index :=
      (path_yields formed inside).mono fun _ _ _ read => ⟨read.1, read.2 more⟩
    refine Attempt.Gives.bind (.lift read) fun path s' _ inside taken => .span fun span spanned => ?_
    refine .pure inside (.node taken ?_ trivial allWithin_nil nofun)
    change (PathSegment.columnRef path span).span = _
    rw [columnRef_span, spanned (by omega)]
    rfl
  next => exact Attempt.unexpected_gives inside _

theorem aliasName_gives (formed : input.WellFormed) (inside : s.index < input.tokens.size) :
    Gives input s aliasName fun _ _ => True := by
  refine .accept formed inside (fun _ s' here inside => .look rfl ?_) fun _ => .look rfl ?_
  · refine (Attempt.orNote_gives (identifier_gives formed inside)).bind fun name _ _ inside => ?_
    cases name <;> exact .pure inside fun _ _ => trivial
  · split
    next word =>
      have more := formed.more inside (beq_iff_eq.1 word) (by decide)
      exact .advance more fun s' _ inside => .pure inside trivial
    next => exact .pure inside trivial

/-! ### Types -/

theorem typeArguments_gives (formed : input.WellFormed) (bound : Nat) (depth : Int)
    (afterWord : Bool) (inside : s.index < input.tokens.size)
    (enough : input.tokens.size - s.index < bound) :
    Gives input s (typeArguments bound depth afterWord) fun _ _ => True := by
  induction bound generalizing s depth afterWord with
  | zero => omega
  | succ bound ih =>
    refine .look rfl ?_
    split
    next => exact .failed (unexpected_gives inside _)
    next proper =>
      have more := formed.more inside rfl proper
      generalize copyTypeToken (input.token s.index) depth afterWord = copied
      obtain ⟨text, depth, isWord⟩ := copied
      refine .advance more fun s' here inside' => ?_
      split
      · refine (ih _ _ inside' (by omega)).bind fun rest s'' _ inside => ?_
        exact .pure inside fun _ _ => trivial
      · exact ((fault_gives inside' _).when inside' _).bind fun _ _ _ inside =>
          .pure inside fun _ _ => trivial

theorem typeParameters_gives (formed : input.WellFormed) (bound : Nat)
    (inside : s.index < input.tokens.size) (enough : input.tokens.size - s.index < bound) :
    Gives input s (typeParameters bound) fun _ _ => True := by
  induction bound generalizing s with
  | zero => omega
  | succ bound ih =>
    refine .look rfl ?_
    split
    next => exact .pure inside trivial
    next proper =>
      simp only [Bool.or_eq_true, decide_eq_true_eq, not_or] at proper
      refine .advance (formed.more inside rfl proper.2) fun s' here inside' => ?_
      refine (ih inside' (by omega)).bind fun rest s'' _ inside => ?_
      exact .pure inside fun _ _ => trivial

theorem typeName_gives (formed : input.WellFormed) (inside : s.index < input.tokens.size) :
    Gives input s typeName fun _ s' => s.index < s'.index := by
  refine .look rfl ?_
  split
  next => exact .failed (unexpected_gives inside _)
  next word =>
    have word : (input.token s.index).isWord = true := by simpa using word
    refine .advance (isWord_more formed inside word) fun s₁ here inside₁ => .look rfl (.look rfl ?_)
    have arguments : Gives input s₁ (if (input.token s₁.index).kind == Symbol.less then
        typeArguments (input.tokens.size - s₁.index + 1) 0 false else pure "") fun _ _ => True := by
      split
      · exact typeArguments_gives formed _ _ _ inside₁ (Nat.lt_succ_self _)
      · exact .pure inside₁ trivial
    refine arguments.bind fun arguments s₂ forward₂ inside₂ => ?_
    refine .accept formed inside₂ (fun _ s₃ here₃ inside₃ => ?_) fun _ => ?_
    · refine (typeParameters_gives formed _ inside₃ (by omega)).bind
        fun parameters s₄ forward₄ inside₄ => ?_
      refine (expected_gives formed inside₄).bind fun _ s₅ forward₅ inside₅ => ?_
      exact .pure inside₅ fun _ _ _ _ _ _ => by omega
    · exact .pure inside₂ fun _ _ => by omega

end Parser

namespace Grammar

variable {input : ParserInput} (formed : input.WellFormed) {grammar : Grammar} {lo : Nat}
  (sound : grammar.Sound input lo) {s : ParserState}

include sound in
theorem Sound.expression (after : lo ≤ s.index) (inside : s.index < input.tokens.size) :
    Gives input s grammar.expression fun e s' => e.Covers input s.index s'.index :=
  sound.expressionAbove _ s after inside

theorem widens_placed : Widens fun i j (e : Expr) => e.Placed input i j :=
  fun _ _ _ _ _ after before placed => placed.widen after before

theorem widens_orderItem : Widens fun i j (item : OrderItem) => item.expr.Placed input i j :=
  fun _ _ _ _ _ after before placed => placed.widen after before

include formed sound

/-! ### Lists of expressions -/

theorem expressions_gives (after : lo ≤ s.index) (inside : s.index < input.tokens.size) :
    Gives input s grammar.expressions fun exprs s' =>
      exprs ≠ [] ∧ ∀ e ∈ exprs, e.Placed input s.index s'.index :=
  commaSeparated_gives formed widens_placed
    (fun _ after inside => (sound.expression after inside).mono
      fun _ _ _ read => read.placed (Nat.le_refl _) (Nat.le_refl _)) after inside

theorem expressionAfter_gives (keyword : Keyword) (after : lo ≤ s.index + 1)
    (inside : s.index < input.tokens.size) :
    Gives input s (grammar.expressionAfter keyword) fun expr s' =>
      ∀ e ∈ expr, e.Placed input s.index s'.index := by
  refine .accept formed inside (fun _ s₁ here₁ inside₁ => ?_) fun _ => .pure inside nofun
  refine (sound.expression (by omega) inside₁).bind fun e s₂ forward₂ inside₂ => ?_
  refine .pure inside₂ fun _ read e' member => ?_
  cases member
  exact read.placed (by omega) (Nat.le_refl _)

theorem orderItem_gives (after : lo ≤ s.index) (inside : s.index < input.tokens.size) :
    Gives input s grammar.orderItem fun item s' => item.expr.Placed input s.index s'.index := by
  refine (sound.expression after inside).bind fun expr s₁ forward₁ inside₁ => ?_
  refine (accept_gives inside₁ _).bind fun descending s₂ forward₂ inside₂ => ?_
  refine ((accept_gives inside₂ _).discard.when inside₂ _).bind
    fun _ s₃ forward₃ inside₃ => ?_
  refine .accept formed inside₃ (fun _ s₄ here₄ inside₄ => ?_) fun _ => ?_
  · refine .accept formed inside₄ (fun _ s₅ here₅ inside₅ => ?_) fun _ => ?_
    · exact .pure inside₅ fun _ _ _ _ _ read => read.placed (Nat.le_refl _) (by omega)
    · refine .accept formed inside₄ (fun _ s₅ here₅ inside₅ => ?_) fun _ => ?_
      · exact .pure inside₅ fun _ _ _ _ _ read => read.placed (Nat.le_refl _) (by omega)
      · exact .failed (unexpected_gives inside₄ _)
  · exact .pure inside₃ fun _ _ _ _ _ read => read.placed (Nat.le_refl _) (by omega)

theorem orderItems_gives (after : lo ≤ s.index) (inside : s.index < input.tokens.size) :
    Gives input s grammar.orderItems fun items s' =>
      ∀ item ∈ items, item.expr.Placed input s.index s'.index :=
  (commaSeparated_gives formed widens_orderItem
    (fun _ after inside => orderItem_gives formed sound after inside) after inside).mono
      fun _ _ _ read => read.2

theorem ordering_gives (after : lo ≤ s.index + 1) (inside : s.index < input.tokens.size) :
    Gives input s grammar.ordering fun items s' =>
      ∀ item ∈ items, item.expr.Placed input s.index s'.index := by
  refine .accept formed inside (fun _ s₁ here₁ inside₁ => ?_) fun _ => .pure inside nofun
  refine (expected_gives formed inside₁).bind fun _ s₂ forward₂ inside₂ => ?_
  refine (orderItems_gives formed sound (by omega) inside₂).mono fun items s₃ _ read _ _ => ?_
  exact fun item member => (read item member).widen (by omega) (Nat.le_refl _)

/-! ### Windows -/

theorem frameBound_gives (after : lo ≤ s.index) (inside : s.index < input.tokens.size) :
    Gives input s grammar.frameBound fun (bound, offset) s' =>
      offset.isSome = bound.takesOffset ∧ ∀ e ∈ offset, e.Placed input s.index s'.index := by
  refine .accept formed inside (fun _ s₁ here₁ inside₁ => ?_) fun _ => ?_
  · refine .accept formed inside₁ (fun _ s₂ here₂ inside₂ => .pure inside₂ ⟨rfl, nofun⟩) fun _ => ?_
    refine (expected_gives formed inside₁).bind fun _ s₂ _ inside₂ => ?_
    exact .pure inside₂ fun _ _ => ⟨rfl, nofun⟩
  · refine .accept formed inside (fun _ s₁ here₁ inside₁ => ?_) fun _ => ?_
    · refine (expected_gives formed inside₁).bind fun _ s₂ _ inside₂ => ?_
      exact .pure inside₂ fun _ _ => ⟨rfl, nofun⟩
    · refine (sound.expressionAbove _ s after inside).bind fun offset s₁ forward₁ inside₁ => ?_
      refine .accept formed inside₁ (fun _ s₂ here₂ inside₂ => ?_) fun _ => ?_
      · refine .pure inside₂ fun _ read => ⟨rfl, fun e member => ?_⟩
        cases member
        exact read.placed (Nat.le_refl _) (by omega)
      · refine (expected_gives formed inside₁).bind fun _ s₂ forward₂ inside₂ => ?_
        refine .pure inside₂ fun _ _ _ read => ⟨rfl, fun e member => ?_⟩
        cases member
        exact read.placed (Nat.le_refl _) (by omega)

omit sound in
theorem frameUnit_gives (inside : s.index < input.tokens.size) :
    Gives input s frameUnit fun unit s' => unit.isSome → s.index < s'.index := by
  refine .accept formed inside (fun _ s₁ here₁ inside₁ => .pure inside₁ (by omega)) fun _ => ?_
  refine .accept formed inside (fun _ s₁ here₁ inside₁ => .pure inside₁ (by omega)) fun _ => ?_
  refine .accept formed inside (fun _ s₁ here₁ inside₁ => .pure inside₁ (by omega)) fun _ => ?_
  exact .pure inside nofun

theorem frame_gives (after : lo ≤ s.index) (inside : s.index < input.tokens.size) :
    Gives input s grammar.frame fun (frame, first, last) s' =>
      Frame.Fits frame first last ∧ (∀ e ∈ first, e.Placed input s.index s'.index) ∧
        ∀ e ∈ last, e.Placed input s.index s'.index := by
  refine (frameUnit_gives formed inside).bind fun unit s₁ forward₁ inside₁ => ?_
  cases unit with
  | none => exact .pure inside₁ fun _ _ => ⟨⟨rfl, rfl⟩, nofun, nofun⟩
  | some unit =>
    refine .accept formed inside₁ (fun _ s₂ here₂ inside₂ => ?_) fun _ => ?_
    · refine (frameBound_gives formed sound (by omega) inside₂).bind
        fun (first, firstOffset) s₃ forward₃ inside₃ => ?_
      refine (expected_gives formed inside₃).bind fun _ s₄ forward₄ inside₄ => ?_
      refine (frameBound_gives formed sound (by omega) inside₄).bind
        fun (last, lastOffset) s₅ forward₅ inside₅ => ?_
      refine .pure inside₅ fun _ ⟨lastFits, lastRead⟩ _ _ _ ⟨firstFits, firstRead⟩ _ _ => ?_
      exact ⟨⟨firstFits, lastFits⟩,
        fun e member => (firstRead e member).widen (by omega) (by omega),
        fun e member => (lastRead e member).widen (by omega) (Nat.le_refl _)⟩
    · refine (frameBound_gives formed sound (by omega) inside₁).bind
        fun (first, firstOffset) s₂ forward₂ inside₂ => ?_
      refine .pure inside₂ fun _ ⟨firstFits, firstRead⟩ _ _ => ?_
      exact ⟨⟨firstFits, rfl⟩, fun e member => (firstRead e member).widen (by omega) (Nat.le_refl _),
        nofun⟩

omit sound in
theorem windowBase_gives (inside : s.index < input.tokens.size) :
    Gives input s windowBase fun _ _ => True := by
  refine .look rfl ?_
  split
  next word =>
    exact .advance (formed.more inside (beq_iff_eq.1 word) (by decide))
      fun _ _ inside => .pure inside trivial
  next => exact .pure inside trivial

theorem partitioning_gives (after : lo ≤ s.index + 1) (inside : s.index < input.tokens.size) :
    Gives input s grammar.partitioning fun exprs s' =>
      ∀ e ∈ exprs, e.Placed input s.index s'.index := by
  refine .accept formed inside (fun _ s₁ here₁ inside₁ => ?_) fun _ => .pure inside nofun
  refine (expected_gives formed inside₁).bind fun _ s₂ forward₂ inside₂ => ?_
  refine (expressions_gives formed sound (by omega) inside₂).mono fun exprs s₃ _ read _ _ => ?_
  exact fun e member => (read.2 e member).widen (by omega) (Nat.le_refl _)

theorem windowSpec_gives (after : lo ≤ s.index + 1) (inside : s.index < input.tokens.size) :
    Gives input s grammar.windowSpec fun window s' =>
      Covers input s.index s'.index (.node (.window window)) := by
  refine .look rfl (.expect formed inside (fun _ s₁ here₁ inside₁ => ?_)
    fun _ _ inside => .pure inside trivial)
  refine (windowBase_gives formed inside₁).bind fun name s₂ forward₂ inside₂ => ?_
  refine (partitioning_gives formed sound (by omega) inside₂).bind
    fun partitionBy s₃ forward₃ inside₃ => ?_
  refine (ordering_gives formed sound (by omega) inside₃).bind fun orderBy s₄ forward₄ inside₄ => ?_
  refine (frame_gives formed sound (by omega) inside₄).bind
    fun (frame, firstOffset, lastOffset) s₅ forward₅ inside₅ => ?_
  refine (expected_gives formed inside₅).bind fun _ s₆ forward₆ inside₆ => .span fun span spanned => ?_
  refine .pure inside₆ fun _ _ _ ⟨fits, first, last⟩ _ ordered _ partitioned _ _ => ?_
  refine .node (by omega) (spanned (by omega)) ?_ ?_ nofun
  · exact ⟨fun e member => (partitioned e member).1, fun item member => (ordered item member).1,
      fun e member => (first e member).1, fun e member => (last e member).1, fits⟩
  · simp only [Node.children, WindowSpec.children, allWithin_append]
    exact ⟨⟨⟨allWithin_exprNodes fun e member => (partitioned e member).widen (by omega) (by omega),
      allWithin_orderNodes fun item member => (ordered item member).widen (by omega) (by omega)⟩,
      allWithin_optionNodes fun e member => (first e member).widen (by omega) (by omega)⟩,
      allWithin_optionNodes fun e member => (last e member).widen (by omega) (by omega)⟩

omit formed sound in
theorem covers_windowNamed (name : String) {span : Span} {i j : Nat} (nonempty : i < j)
    (spanned : span = input.cover i j) :
    Covers input i j (.node (.window (windowNamed name span))) :=
  .node nonempty spanned ⟨nofun, nofun, nofun, nofun, rfl, rfl⟩ allWithin_nil nofun

theorem namedWindow_gives (after : lo ≤ s.index + 1) (inside : s.index < input.tokens.size) :
    Attempt.Gives input s grammar.namedWindow fun window s' =>
      Within input s.index s'.index (.node (.window window.spec)) := by
  refine (identifier_gives formed inside).bind fun name s₁ forward₁ inside₁ _ => ?_
  refine (Attempt.expect_gives formed inside₁).bind fun _ s₂ forward₂ inside₂ _ => .look rfl ?_
  split
  · refine (Attempt.complete_gives (windowSpec_gives formed sound (by omega) inside₂)).bind
      fun spec s₃ forward₃ inside₃ read => ?_
    exact .pure inside₃ (read.within (by omega) (Nat.le_refl _))
  · refine .look rfl ((identifier_gives formed inside₂).bind
      fun base s₃ forward₃ inside₃ taken => ?_)
    refine .span fun span spanned => .pure inside₃ ?_
    exact (covers_windowNamed base taken (spanned (by omega))).within (by omega) (Nat.le_refl _)

end Grammar

end QueryLint
