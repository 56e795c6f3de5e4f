import QueryLint.Proofs.Parser.Phrases

/-!
What function calls and the constructs that look like them read.
-/

namespace QueryLint

open QueryLint.Parser

namespace Grammar

variable {input : ParserInput} (formed : input.WellFormed) {grammar : Grammar} {lo : Nat}
  (sound : grammar.Sound input lo) {s : ParserState}

include formed sound

/-! ### Function calls -/

omit formed sound in
theorem widens_argument :
    Widens fun i j (argument : Option Expr) => ∃ e, argument = some e ∧ e.Placed input i j :=
  fun _ _ _ _ _ after before ⟨e, same, placed⟩ => ⟨e, same, placed.widen after before⟩

theorem callArgument_takes (after : lo ≤ s.index) (inside : s.index < input.tokens.size) :
    TakesMore input s grammar.callArgument
      fun i j argument => ∃ e, argument = some e ∧ e.Placed input i j := by
  refine .look rfl (.look rfl (Yields.bind ((advanceTwice_gives inside).when inside _)
    fun _ s₁ moves₁ _ => .look rfl ?_))
  have forward₁ := moves₁.forward
  refine Yields.bind (sound.expression (by omega) moves₁.inside) fun e s₂ moves₂ read => .look rfl ?_
  have forward₂ := moves₂.forward
  have placed (clean : s₂.errors = s.errors) : e.Placed input s.index s₂.index :=
    (read (moves₁.clean moves₂ clean).2).placed forward₁ (Nat.le_refl _)
  split
  next failed =>
    refine ⟨_, s₂, rfl, .refl moves₂.inside, nofun, fun clean => ?_⟩
    simp [(moves₁.clean moves₂ clean).2] at failed
  next =>
    refine .accept formed moves₂.inside (fun _ more => ?_) fun _ => ?_
    · refine ⟨_, s₂.next, rfl, .refl more, fun _ => ?_, fun clean => ⟨e, rfl, ?_⟩⟩
      · simp only [ParserState.next_index]
        omega
      · exact (placed clean).widen (Nat.le_refl _) (Nat.le_succ _)
    · exact ⟨_, s₂, rfl, .refl moves₂.inside, nofun, fun clean => ⟨e, rfl, placed clean⟩⟩

theorem callArguments_gives (after : lo ≤ s.index) (inside : s.index < input.tokens.size) :
    Gives input s grammar.callArguments fun arguments s' =>
      ∀ e ∈ arguments, e.Placed input s.index s'.index := by
  refine .look rfl ((chain_gives widens_argument
    (fun _ after inside => callArgument_takes formed sound after inside) _ s after inside
      (Nat.lt_succ_self _)).bind fun arguments s₁ forward₁ inside₁ => ?_)
  refine .pure inside₁ fun _ ⟨_, read⟩ e member => ?_
  obtain ⟨argument, listed, same⟩ := List.mem_filterMap.1 member
  obtain ⟨e', rfl, placed⟩ := read argument listed
  cases same
  exact placed

theorem callOperands_gives (star : Bool) (after : lo ≤ s.index)
    (inside : s.index < input.tokens.size) :
    Gives input s (grammar.callOperands star) fun operands s' =>
      ∀ e ∈ operands.2, e.Placed input s.index s'.index := by
  refine .look rfl ?_
  split
  · exact .pure inside nofun
  · refine (accept_gives inside _).bind fun distinct s₁ forward₁ inside₁ => ?_
    refine (callArguments_gives formed sound (by omega) inside₁).bind
      fun arguments s₂ forward₂ inside₂ => ?_
    exact .pure inside₂ fun _ read _ _ e member => (read e member).widen forward₁ (Nat.le_refl _)

omit formed sound in
theorem nullHandling_gives (inside : s.index < input.tokens.size) :
    Gives input s nullHandling fun _ _ => True := by
  refine .look rfl (.look rfl ?_)
  split
  · dsimp only
    split
    · refine (advance_gives inside).bind fun _ s₁ _ inside₁ => ?_
      refine (advance_gives inside₁).bind fun _ s₂ _ inside₂ => ?_
      exact .pure inside₂ fun _ _ _ _ => trivial
    · exact .pure inside trivial
  · exact .pure inside trivial

theorem callRestriction_gives (arguments : List Expr) (after : lo ≤ s.index + 1)
    (inside : s.index < input.tokens.size) :
    Gives input s (grammar.callRestriction arguments) fun all s' =>
      ∀ e ∈ all, e ∈ arguments ∨ e.Placed input s.index s'.index := by
  refine .accept formed inside (fun _ s₁ here₁ inside₁ => ?_) fun _ => ?_
  · refine (advance_gives inside₁).bind fun _ s₂ forward₂ inside₂ => ?_
    refine (sound.expression (by omega) inside₂).bind fun bound s₃ forward₃ inside₃ => ?_
    refine .pure inside₃ fun _ read _ _ e member => ?_
    rw [if_neg (by simp [read.1])] at member
    rcases List.mem_append.1 member with member | member
    · exact .inl member
    · rw [List.mem_singleton.1 member]
      exact .inr (read.placed (by omega) (Nat.le_refl _))
  · exact .pure inside fun e member => .inl member

theorem callWindow_gives (after : lo ≤ s.index + 1) (inside : s.index < input.tokens.size) :
    Gives input s grammar.callWindow fun (window, complete) s' =>
      complete = true ∧ ∀ w ∈ window, Within input s.index s'.index (.node (.window w)) := by
  refine .accept formed inside (fun _ s₁ here₁ inside₁ => .look rfl ?_)
    fun _ => .pure inside ⟨rfl, nofun⟩
  split
  · refine (windowSpec_gives formed sound (by omega) inside₁).bind fun spec s₂ _ inside₂ => ?_
    refine .pure inside₂ fun _ read => ⟨rfl, fun w member => ?_⟩
    cases member
    exact read.within (by omega) (Nat.le_refl _)
  · refine .look rfl ?_
    split
    next word =>
      refine .advance (isWord_more formed inside₁ word) fun s₂ here₂ inside₂ => ?_
      refine .span fun span spanned => .pure inside₂ ⟨rfl, fun w member => ?_⟩
      cases member
      have taken : s₁.index < s₂.index := by omega
      exact (covers_windowNamed _ taken (spanned (by omega))).within (by omega) (Nat.le_refl _)
    next => exact .failed (unexpected_gives inside₁ _)

theorem call_gives {start : Position} {i : Nat} (started : start = (input.token i).span.start)
    (path : List PathSegment) (before : i < s.index) (after : lo ≤ s.index)
    (inside : s.index < input.tokens.size) :
    Gives input s (grammar.call start path) fun e s' => e.Covers input i s'.index := by
  subst started
  unfold call
  generalize PathSegment.splitSafe path = split
  obtain ⟨safe, path⟩ := split
  refine (expected_gives formed inside).bind fun _ s₁ forward₁ inside₁ => ?_
  refine (accept_gives inside₁ _).bind fun star s₂ forward₂ inside₂ => ?_
  refine (callOperands_gives formed sound star (by omega) inside₂).bind
    fun (distinct, operands) s₃ forward₃ inside₃ => ?_
  refine (nullHandling_gives inside₃).bind fun mode s₄ forward₄ inside₄ => ?_
  refine (callRestriction_gives formed sound operands (by omega) inside₄).bind
    fun arguments s₅ forward₅ inside₅ => ?_
  refine (ordering_gives formed sound (by omega) inside₅).bind fun orderBy s₆ forward₆ inside₆ => ?_
  refine (expressionAfter_gives formed sound _ (by omega) inside₆).bind
    fun limit s₇ forward₇ inside₇ => ?_
  refine (expected_gives formed inside₇).bind fun _ s₈ forward₈ inside₈ => ?_
  refine (callWindow_gives formed sound (by omega) inside₈).bind
    fun (window, complete) s₉ forward₉ inside₉ => ?_
  cases complete with
  | false => exact .pure inside₉ fun _ ⟨impossible, _⟩ => nomatch impossible
  | true =>
    refine .span fun span spanned => .pure inside₉ ?_
    intro _ ⟨_, overs⟩ _ _ _ limited _ ordered _ restricted _ _ _ operated _ _ _ _
    have placed (e : Expr) (member : e ∈ arguments) : e.Placed input i s₉.index := by
      rcases restricted e member with member | placed
      · exact (operated e member).widen (by omega) (by omega)
      · exact placed.widen (by omega) (by omega)
    refine .intro (by omega) (spanned (by omega)) ?_ ?_
    · exact ⟨fun e member => (placed e member).1, fun item member => (ordered item member).1,
        fun e member => (limited e member).1⟩
    · simp only [Expr.children, allWithin_append]
      refine ⟨⟨⟨allWithin_exprNodes placed, allWithin_orderNodes fun item member => ?_⟩,
        allWithin_optionNodes fun e member => ?_⟩, .map fun w member => ?_⟩
      · exact (ordered item member).widen (by omega) (by omega)
      · exact (limited e member).widen (by omega) (by omega)
      · exact (overs w (Option.mem_toList.1 member)).widen (by omega) (Nat.le_refl _)

/-! ### Case distinctions -/

omit formed sound in
theorem widens_branch : Widens fun i j (branch : CaseBranch) =>
    branch.condition.Placed input i j ∧ branch.result.Placed input i j :=
  fun _ _ _ _ _ after before ⟨condition, result⟩ =>
    ⟨condition.widen after before, result.widen after before⟩

theorem caseBranch_takes (after : lo ≤ s.index + 1) (inside : s.index < input.tokens.size) :
    Takes input s grammar.caseBranch fun i j branch =>
      branch.condition.Placed input i j ∧ branch.result.Placed input i j := by
  refine .accept formed inside (fun _ s₁ here₁ inside₁ => ?_) fun _ => .none inside
  refine (sound.expression (by omega) inside₁).bind fun condition s₂ forward₂ inside₂ => ?_
  refine (expected_gives formed inside₂).bind fun _ s₃ forward₃ inside₃ => ?_
  refine (sound.expression (by omega) inside₃).bind fun result s₄ forward₄ inside₄ => ?_
  refine .pure inside₄ fun _ result _ _ _ condition branch member => ?_
  cases member
  exact ⟨condition.placed (by omega) (by omega), result.placed (by omega) (Nat.le_refl _)⟩

omit formed in
theorem caseOperand_gives (after : lo ≤ s.index) (inside : s.index < input.tokens.size) :
    Gives input s grammar.caseOperand fun operand s' =>
      ∀ e ∈ operand, e.Placed input s.index s'.index := by
  refine .look rfl ?_
  split
  · exact .pure inside nofun
  · refine (sound.expression after inside).bind fun e s₁ forward₁ inside₁ => ?_
    refine .pure inside₁ fun _ read e' member => ?_
    cases member
    exact read.placed (Nat.le_refl _) (Nat.le_refl _)

theorem caseDistinction_gives (found : (input.token s.index).kind = Keyword.CASE)
    (after : lo ≤ s.index + 1) (inside : s.index < input.tokens.size) :
    Gives input s grammar.caseDistinction fun e s' => e.Covers input s.index s'.index := by
  refine .look rfl (.found formed inside found fun s₁ here₁ inside₁ => ?_)
  refine (caseOperand_gives sound (by omega) inside₁).bind
    fun operand s₂ forward₂ inside₂ => .look rfl ?_
  refine (repeated_gives widens_branch
    (fun _ after inside => caseBranch_takes formed sound (Nat.le_succ_of_le after) inside) _ s₂
      (by omega) inside₂ (Nat.lt_succ_self _)).bind
        fun branches s₃ forward₃ inside₃ => ?_
  split
  · exact .failed (unexpected_gives inside₃ _)
  next nonempty =>
    refine (expressionAfter_gives formed sound _ (by omega) inside₃).bind
      fun otherwise s₄ forward₄ inside₄ => ?_
    refine (expected_gives formed inside₄).bind fun _ s₅ forward₅ inside₅ => ?_
    refine .span fun span spanned => .pure inside₅ fun _ _ _ last _ read _ first => ?_
    refine .intro (by omega) (spanned (by omega)) ?_ ?_
    · exact ⟨fun e member => (first e member).1, by simpa using nonempty,
        fun branch member => ⟨(read branch member).1.1, (read branch member).2.1⟩,
        fun e member => (last e member).1⟩
    · simp only [Expr.children, allWithin_append]
      refine ⟨⟨allWithin_optionNodes fun e member => ?_, allWithin_branchNodes
        fun branch member => ?_⟩, allWithin_optionNodes fun e member => ?_⟩
      · exact (first e member).widen (by omega) (by omega)
      · exact widens_branch (by omega) (by omega) (read branch member)
      · exact (last e member).widen (by omega) (by omega)

/-! ### Conversions and time -/

omit sound in
theorem checkWord_more (inside : s.index < input.tokens.size) {word : String}
    (spelled : ((input.token s.index).kind == .identifier && (input.token s.index).spells word) =
      true) : s.index + 1 < input.tokens.size := by
  simp only [Bool.and_eq_true, beq_iff_eq] at spelled
  exact formed.more inside spelled.1 (by decide)

omit sound in
theorem fixedWords_gives (words : List String) (inside : s.index < input.tokens.size) :
    Gives input s (fixedWords words) fun _ _ => True := by
  induction words generalizing s with
  | nil => exact .pure inside trivial
  | cons word words ih =>
    refine .look rfl ?_
    split
    next spelled => exact .advance (checkWord_more formed inside spelled) fun _ _ inside => ih inside
    next => exact .failed (unexpected_gives inside _)

theorem timeZone_gives (after : lo ≤ s.index + 1) (inside : s.index < input.tokens.size) :
    Gives input s grammar.timeZone fun _ _ => True := by
  refine .look rfl ?_
  split
  next spelled =>
    refine .advance (checkWord_more formed inside spelled) fun s₁ here₁ inside₁ => ?_
    refine (fixedWords_gives formed _ inside₁).bind fun complete s₂ forward₂ inside₂ => ?_
    split
    · exact (sound.expression (by omega) inside₂).discard.mono fun _ _ _ _ _ _ => trivial
    · exact .pure inside₂ fun _ _ => trivial
  next => exact .pure inside trivial

theorem castFormat_gives (after : lo ≤ s.index + 1) (inside : s.index < input.tokens.size) :
    Gives input s grammar.castFormat fun _ _ => True := by
  refine .look rfl ?_
  split
  next spelled =>
    refine .advance (checkWord_more formed inside spelled) fun s₁ here₁ inside₁ => ?_
    refine (sound.expression (by omega) inside₁).discard.bind fun _ s₂ forward₂ inside₂ => ?_
    exact (timeZone_gives formed sound (by omega) inside₂).mono fun _ _ _ _ _ _ => trivial
  next => exact .pure inside trivial

theorem cast_gives {start : Position} {i : Nat} (started : start = (input.token i).span.start)
    (safe : Bool) (before : i < s.index) (after : lo ≤ s.index)
    (inside : s.index < input.tokens.size) :
    Gives input s (grammar.cast start safe) fun e s' => e.Covers input i s'.index := by
  subst started
  refine (expected_gives formed inside).bind fun _ s₁ forward₁ inside₁ => ?_
  refine (sound.expression (by omega) inside₁).bind fun operand s₂ forward₂ inside₂ => ?_
  refine (expected_gives formed inside₂).bind fun _ s₃ forward₃ inside₃ => ?_
  refine (typeName_gives formed inside₃).bind fun typeName s₄ forward₄ inside₄ => ?_
  refine (castFormat_gives formed sound (by omega) inside₄).bind fun _ s₅ forward₅ inside₅ => ?_
  refine (expected_gives formed inside₅).bind fun _ s₆ forward₆ inside₆ => ?_
  refine .span fun span spanned => .pure inside₆ fun _ _ _ _ _ _ _ _ _ read _ _ => ?_
  exact .intro (by omega) (spanned (by omega)) read.1 (read.placed (by omega) (by omega)).present

omit sound in
theorem datePart_gives (word : Token) (inside : s.index < input.tokens.size) :
    Gives input s (datePart word) fun _ _ => True := by
  refine .accept formed inside (fun _ s₁ _ inside₁ => .look rfl ?_) fun _ => .pure inside trivial
  have argument : Gives input s₁ (if (input.token s₁.index).isWord then do
      advance
      pure ("(" ++ Text.upper (input.token s₁.index).text ++ ")")
    else pure "") fun _ _ => True := by
    split
    next word =>
      exact .advance (isWord_more formed inside₁ word) fun _ _ inside => .pure inside trivial
    next => exact .pure inside₁ trivial
  refine argument.bind fun _ s₂ _ inside₂ => ?_
  refine (expected_gives formed inside₂).bind fun _ s₃ _ inside₃ => ?_
  exact .pure inside₃ fun _ _ _ _ => trivial

theorem extract_gives (found : (input.token s.index).kind = Keyword.EXTRACT)
    (after : lo ≤ s.index + 1) (inside : s.index < input.tokens.size) :
    Gives input s grammar.extract fun e s' => e.Covers input s.index s'.index := by
  refine .look rfl (.found formed inside found fun s₁ here₁ inside₁ => ?_)
  refine (expected_gives formed inside₁).bind fun _ s₂ forward₂ inside₂ => .look rfl ?_
  split
  · exact .failed (unexpected_gives inside₂ _)
  next word =>
    have word : (input.token s₂.index).isWord = true := by simpa using word
    refine .advance (isWord_more formed inside₂ word) fun s₃ here₃ inside₃ => ?_
    refine (datePart_gives formed _ inside₃).bind fun part s₄ forward₄ inside₄ => ?_
    refine (expected_gives formed inside₄).bind fun _ s₅ forward₅ inside₅ => ?_
    refine (sound.expression (by omega) inside₅).bind fun operand s₆ forward₆ inside₆ => ?_
    refine (timeZone_gives formed sound (by omega) inside₆).bind fun _ s₇ forward₇ inside₇ => ?_
    refine (expected_gives formed inside₇).bind fun _ s₈ forward₈ inside₈ => ?_
    refine .span fun span spanned => .pure inside₈ fun _ _ _ _ _ read _ _ _ _ _ _ => ?_
    exact .intro (by omega) (spanned (by omega)) read.1 (read.placed (by omega) (by omega)).present

omit sound in
theorem lastUnit_gives (inside : s.index < input.tokens.size) :
    Gives input s lastUnit fun _ _ => True := by
  refine .look rfl ?_
  split
  next spelled =>
    refine .advance (checkWord_more formed inside spelled) fun s₁ here₁ inside₁ => .look rfl ?_
    split
    next word =>
      exact .advance (isWord_more formed inside₁ word) fun _ _ inside => .pure inside trivial
    next => exact .pure inside₁ trivial
  next => exact .pure inside trivial

theorem interval_gives (found : (input.token s.index).kind = Keyword.INTERVAL)
    (after : lo ≤ s.index + 1) (inside : s.index < input.tokens.size) :
    Gives input s grammar.interval fun e s' => e.Covers input s.index s'.index := by
  refine .look rfl (.found formed inside found fun s₁ here₁ inside₁ => ?_)
  refine (sound.expressionAbove _ s₁ (by omega) inside₁).bind fun value s₂ forward₂ inside₂ => ?_
  split
  next missing => exact .pure inside₂ fun _ read => by simp [read.1] at missing
  next =>
    refine .look rfl ?_
    split
    · exact .failed (unexpected_gives inside₂ _)
    next word =>
      have word : (input.token s₂.index).isWord = true := by simpa using word
      refine .advance (isWord_more formed inside₂ word) fun s₃ here₃ inside₃ => ?_
      refine (lastUnit_gives formed inside₃).bind fun toUnit s₄ forward₄ inside₄ => ?_
      refine .span fun span spanned => .pure inside₄ fun _ _ _ read => ?_
      exact .intro (by omega) (spanned (by omega)) read.1 (read.placed (by omega) (by omega)).present

/-! ### Queries in expressions -/

theorem existsQuery_gives (found : (input.token s.index).kind = Keyword.EXISTS)
    (after : lo ≤ s.index + 1) (inside : s.index < input.tokens.size) :
    Gives input s grammar.existsQuery fun e s' => e.Covers input s.index s'.index := by
  refine .look rfl (.found formed inside found fun s₁ here₁ inside₁ => ?_)
  refine (expected_gives formed inside₁).bind fun _ s₂ forward₂ inside₂ => ?_
  refine (sound.query s₂ (by omega) inside₂).bind fun query s₃ forward₃ inside₃ => ?_
  refine (expected_gives formed inside₃).bind fun _ s₄ forward₄ inside₄ => ?_
  refine .span fun span spanned => .pure inside₄ fun _ _ _ read _ _ => ?_
  exact .intro (by omega) (spanned (by omega)) trivial
    (allWithin_singleton.2 (read.within (by omega) (by omega)))

end Grammar

end QueryLint
