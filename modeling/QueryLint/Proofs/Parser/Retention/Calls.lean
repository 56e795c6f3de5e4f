import QueryLint.Proofs.Parser.Retention.Phrases

/-!
What calls and the constructs that look like them retain. A call keeps all that is read in it, and
what is read after its only argument stands behind that argument, which is what an accessor word
needs. The time zone of `EXTRACT` and the format of a conversion are read and dropped; both stand
after the operand and before the end of the construct.
-/

namespace QueryLint

/-! ### Offsets of tokens -/

namespace ParserInput.Laid

variable {source : Text.Bytes} {input : ParserInput} (laid : input.Laid source) {place i j : Nat}

include laid

theorem stop_le_offset (before : j ≤ place) (nonempty : i < j) (inside : place < input.tokens.size) :
    (input.cover i j).stop.offset ≤ input.offset place :=
  laid.ordered (j - 1) place (by omega) inside

theorem offset_lt_stop (before : place < j) (inside : j < input.tokens.size) :
    input.offset place < (input.token (j - 1)).span.stop.offset := by
  have nonempty := laid.nonempty place (by omega)
  have later : (input.token place).span.stop.offset ≤ (input.token (j - 1)).span.stop.offset :=
    laid.stop_le (by omega) (by omega)
  exact Int.lt_of_lt_of_le nonempty later

/-- An expression that was read before a token ends before that token begins. -/
theorem placed_stop_le {e : Expr} (placed : e.Placed input i j) (before : j ≤ place)
    (inside : place < input.tokens.size) : e.span.stop.offset ≤ input.offset place := by
  cases placed.2 with
  | intro _ nonempty earlier covers _ _ =>
    have spanned : e.span = _ := covers
    rw [spanned]
    exact laid.stop_le_offset (by omega) nonempty inside

end ParserInput.Laid

namespace Grammar

open QueryLint.Parser

variable {source : Text.Bytes} {input : ParserInput} (formed : input.WellFormed)
  (laid : input.Laid source) {place lo : Nat} {grammar halting : Grammar}
  (retentive : grammar.Retentive input place lo halting) {s : ParserState}

include formed retentive

/-! ### Function calls -/

omit formed in
theorem callArgument_retains : RetainsAll input place lo grammar.callArgument halting.callArgument
    fun found => RetainedIn (input.offset place) (optionNodes found.1) := by
  intro s after inside
  refine .look rfl (.look rfl (.same ((advanceTwice_gives inside).when inside _)
    fun _ s₁ forward₁ inside₁ _ => .look rfl ?_))
  refine Retains.bindQuiet (retentive.expression s₁ (by omega) inside₁) (by omega)
    fun e s₂ forward₂ inside₂ => .look rfl (.ite (fun failed => ?_) fun _ => ?_)
  · refine .pure inside₂ fun _ _ _ quiet => ?_
    simp [quiet.errors] at failed
  · refine .same (accept_yields inside₂ _) fun more s₃ _ inside₃ _ => ?_
    refine .pure inside₃ fun _ _ read _ => ?_
    exact retainedIn_optionNodes.2 ⟨e, rfl, (read.resolve_left id).2.kept⟩

omit formed in
theorem callArguments_retains : RetainsAll input place lo grammar.callArguments
    halting.callArguments fun arguments => RetainedIn (input.offset place) (exprNodes arguments) := by
  intro s after inside
  refine .look rfl ((chain_retains (A := fun argument => RetainedIn (input.offset place)
    (optionNodes argument)) (callArgument_retains retentive) _ s after inside).start (by omega)
      fun arguments s₁ _ inside₁ => .pure inside₁ ?_)
  rintro _ _ ⟨argument, listed, retained⟩
  obtain ⟨e, rfl, kept⟩ := retainedIn_optionNodes.1 retained
  exact retainedIn_exprNodes.2 ⟨e, List.mem_filterMap.2 ⟨some e, listed, rfl⟩, kept⟩

omit formed in
theorem callOperands_retains (star : Bool) (after : lo ≤ s.index)
    (inside : s.index < input.tokens.size) :
    Retains input place s.index False s (grammar.callOperands star) (halting.callOperands star)
      fun (_, operands) => RetainedIn (input.offset place) (exprNodes operands) := by
  refine .look rfl (.ite (fun _ => .pure inside nofun) fun _ => ?_)
  refine .same (accept_gives inside _) fun distinct s₁ forward₁ inside₁ _ => ?_
  refine (callArguments_retains retentive s₁ (by omega) inside₁).start (by omega)
    fun arguments s₂ _ inside₂ => ?_
  exact .pure inside₂ fun _ _ retained => retained

theorem callRestriction_retains (arguments : List Expr) {first : Nat} (before : first ≤ s.index)
    (after : lo ≤ s.index + 1) (inside : s.index < input.tokens.size) :
    Retains input place first (RetainedIn (input.offset place) (exprNodes arguments)) s
      (grammar.callRestriction arguments) (halting.callRestriction arguments)
      fun all => RetainedIn (input.offset place) (exprNodes all) := by
  refine .accept formed inside (fun _ s₁ here₁ inside₁ => ?_)
    fun _ => .pure inside fun _ _ retained => retained
  refine .same (advance_gives inside₁) fun _ s₂ forward₂ inside₂ _ => ?_
  refine (retentive.expression s₂ (by omega) inside₂).bind (by omega) fun bound s₃ _ inside₃ => ?_
  refine .pure inside₃ fun _ _ read => ?_
  split
  next missing =>
    rcases read with retained | ⟨_, retained⟩
    · exact retained
    · cases bound with
      | missing => exact absurd retained.kept retainedIn_nil
      | _ => cases missing
  next =>
    rw [exprNodes, List.flatMap_append, List.flatMap_singleton, retainedIn_append]
    exact read.imp_right fun retained => retained.2.kept

theorem callWindow_retains (after : lo ≤ s.index + 1) (inside : s.index < input.tokens.size) :
    Retains input place s.index False s grammar.callWindow halting.callWindow
      fun (window, _) => RetainedIn (input.offset place) (window.toList.map .window) := by
  refine .accept formed inside (fun _ s₁ here₁ inside₁ => .look rfl (.ite (fun _ => ?_) fun _ => ?_))
    fun _ => .pure inside nofun
  · refine (windowSpec_retains formed retentive (by omega) inside₁).start (by omega)
      fun spec s₂ _ inside₂ => .pure inside₂ fun _ _ retained => ?_
    exact retainedIn_cons.2 (.inl retained)
  · refine .look rfl (.ite (fun word => ?_) fun _ => .failed (unexpected_gives inside₁ _))
    refine .advance (isWord_more formed inside₁ word) fun s₂ _ inside₂ => ?_
    exact .span fun span _ => .pure inside₂ nofun

include laid

/-- The rest of a call after its name. What is read behind the arguments stands behind each of
them. -/
theorem call_retains (start : Position) (path : List PathSegment) (after : lo ≤ s.index)
    (inside : s.index < input.tokens.size) :
    Retains input place s.index False s (grammar.call start path) (halting.call start path)
      (Expr.Retained (input.offset place)) := by
  have sound := retentive.sound
  unfold call
  generalize PathSegment.splitSafe path = split
  obtain ⟨safe, path⟩ := split
  refine .same (expected_gives formed inside) fun _ s₁ forward₁ inside₁ _ => ?_
  refine .same (accept_gives inside₁ _) fun star s₂ forward₂ inside₂ _ => ?_
  refine (callOperands_retains retentive star (by omega) inside₂).startRead (by omega)
    (callOperands_gives formed sound star (by omega) inside₂)
    fun (distinct, operands) s₃ forward₃ inside₃ => ?_
  refine .same (nullHandling_gives inside₃) fun mode s₄ forward₄ inside₄ _ => ?_
  refine (callRestriction_retains formed retentive operands (by omega) (by omega)
    inside₄).seqRead (callRestriction_gives formed sound operands (by omega) inside₄)
    fun arguments s₅ forward₅ inside₅ => ?_
  refine (ordering_retains formed retentive (by omega) inside₅).bind (by omega)
    fun orderBy s₆ forward₆ inside₆ => ?_
  refine (expressionAfter_retains formed retentive _ (by omega) inside₆).bind (by omega)
    fun limit s₇ forward₇ inside₇ => ?_
  refine .same (expected_gives formed inside₇) fun _ s₈ forward₈ inside₈ _ => ?_
  refine (callWindow_retains formed retentive (by omega) inside₈).bind (by omega)
    fun (window, complete) s₉ forward₉ inside₉ => ?_
  have spanned : Yields input s₉ (if complete then spanFrom start else pure {})
      fun _ s' => s' = s₉ := by
    cases complete
    · exact ⟨_, s₉, rfl, .refl inside₉, rfl⟩
    · exact ⟨_, s₉, rfl, .refl inside₉, rfl⟩
  refine .same spanned fun span t _ inside here => .pure inside fun _ before read restricted operated => ?_
  subst here
  have placed (e : Expr) (member : e ∈ arguments) : e.Placed input s₂.index s₅.index := by
    rcases restricted e member with member | placed
    · exact (operated e member).widen (Nat.le_refl _) (by omega)
    · exact placed.widen (by omega) (Nat.le_refl _)
  have argument : RetainedIn (input.offset place) (exprNodes arguments) ∨ s₅.index ≤ place := by
    rcases read with ((retained | ⟨later, _⟩) | ⟨later, _⟩) | ⟨later, _⟩
    · exact .inl retained
    · exact .inr later
    · exact .inr (by omega)
    · exact .inr (by omega)
  constructor
  · refine retainedIn_cons.2 (.inl (.of_children ?_))
    simp only [Node.children, Expr.children, retainedIn_append]
    rcases read with ((retained | ⟨_, ordered⟩) | ⟨_, limited⟩) | ⟨_, overs⟩
    · exact .inl (.inl (.inl retained))
    · exact .inl (.inl (.inr ordered))
    · exact .inl (.inr limited)
    · exact .inr overs
  · intro e only
    have same : arguments = [e] := by
      unfold Expr.onlyArgument? at only
      split at only <;> simp_all
    subst same
    refine argument.imp (fun retained => ?_) fun later => ?_
    · simpa using retained
    · exact laid.placed_stop_le (placed e (List.mem_singleton_self _)) later (by omega)

/-! ### Case distinctions -/

omit laid in
theorem caseBranch_retains (after : lo ≤ s.index + 1) (inside : s.index < input.tokens.size) :
    Retains input place s.index False s grammar.caseBranch halting.caseBranch
      fun found => ∃ branch ∈ found, RetainedIn (input.offset place) branch.condition.present ∨
        RetainedIn (input.offset place) branch.result.present := by
  refine .accept formed inside (fun _ s₁ here₁ inside₁ => ?_) fun _ => .pure inside nofun
  refine (retentive.expression s₁ (by omega) inside₁).start (by omega)
    fun condition s₂ forward₂ inside₂ => ?_
  refine .same (expected_gives formed inside₂) fun _ s₃ forward₃ inside₃ _ => ?_
  refine (retentive.expression s₃ (by omega) inside₃).bind (by omega) fun result s₄ _ inside₄ => ?_
  exact .pure inside₄ fun _ _ read =>
    ⟨_, rfl, read.imp (fun retained => retained.kept) fun retained => retained.2.kept⟩

omit formed laid in
theorem caseOperand_retains (after : lo ≤ s.index) (inside : s.index < input.tokens.size) :
    Retains input place s.index False s grammar.caseOperand halting.caseOperand
      fun operand => RetainedIn (input.offset place) (optionNodes operand) := by
  refine .look rfl (.ite (fun _ => .pure inside nofun) fun _ => ?_)
  refine (retentive.expression s after inside).start (by omega) fun e s₁ _ inside₁ => ?_
  exact .pure inside₁ fun _ _ retained => retainedIn_optionNodes.2 ⟨e, rfl, retained.kept⟩

omit laid in
theorem caseDistinction_retains (found : (input.token s.index).kind = Keyword.CASE)
    (after : lo ≤ s.index + 1) (inside : s.index < input.tokens.size) :
    Retains input place s.index False s grammar.caseDistinction halting.caseDistinction
      (Expr.Retained (input.offset place)) := by
  refine .look rfl (.found formed inside found fun s₁ here₁ inside₁ => ?_)
  refine (caseOperand_retains retentive (by omega) inside₁).start (by omega)
    fun operand s₂ forward₂ inside₂ => .look rfl ?_
  have all : RetainsAll input place lo _ _ _ := fun _ after inside =>
    caseBranch_retains formed retentive (Nat.le_succ_of_le after) inside
  refine (repeated_retains all _ s₂ (by omega) inside₂).bind (by omega)
    fun branches s₃ forward₃ inside₃ => ?_
  refine .ite (fun _ => .failed (unexpected_gives inside₃ _)) fun _ => ?_
  refine (expressionAfter_retains formed retentive _ (by omega) inside₃).bind (by omega)
    fun otherwise s₄ forward₄ inside₄ => ?_
  refine .same (expected_gives formed inside₄) fun _ s₅ _ inside₅ _ => ?_
  refine .span fun span _ => .pure inside₅ fun _ _ read => .of_children ?_ rfl
  simp only [Expr.children, retainedIn_append, retainedIn_branchNodes]
  rcases read with (compared | ⟨_, decided⟩) | ⟨_, defaulted⟩
  · exact .inl (.inl compared)
  · exact .inl (.inr decided)
  · exact .inr defaulted

/-! ### Conversions and time -/

omit laid in
theorem timeZone_retains (after : lo ≤ s.index + 1) (inside : s.index < input.tokens.size) :
    Retains input place s.index False s grammar.timeZone halting.timeZone fun _ => True := by
  refine .look rfl (.ite (fun spelled => ?_) fun _ => .pure inside nofun)
  refine .advance (checkWord_more formed inside spelled) fun s₁ here₁ inside₁ => ?_
  refine .same (fixedWords_gives formed _ inside₁) fun complete s₂ forward₂ inside₂ _ => ?_
  refine .ite (fun _ => ?_) fun _ => .pure inside₂ nofun
  exact (retentive.expression s₂ (by omega) inside₂).discard.last (by omega) fun _ _ _ => trivial

omit laid in
theorem castFormat_retains (after : lo ≤ s.index + 1) (inside : s.index < input.tokens.size) :
    Retains input place s.index False s grammar.castFormat halting.castFormat fun _ => True := by
  refine .look rfl (.ite (fun spelled => ?_) fun _ => .pure inside nofun)
  refine .advance (checkWord_more formed inside spelled) fun s₁ here₁ inside₁ => ?_
  refine (retentive.expression s₁ (by omega) inside₁).discard.start (by omega)
    fun _ s₂ forward₂ inside₂ => ?_
  exact (timeZone_retains formed retentive (by omega) inside₂).last (by omega) fun _ _ _ => trivial

theorem cast_retains (start : Position) (safe : Bool) (after : lo ≤ s.index)
    (inside : s.index < input.tokens.size) :
    Retains input place s.index False s (grammar.cast start safe) (halting.cast start safe)
      (Expr.Retained (input.offset place)) := by
  refine .same (expected_gives formed inside) fun _ s₁ forward₁ inside₁ _ => ?_
  refine (retentive.expression s₁ (by omega) inside₁).startRead (by omega)
    (retentive.sound.expression (by omega) inside₁) fun operand s₂ forward₂ inside₂ => ?_
  refine .same (expected_gives formed inside₂) fun _ s₃ forward₃ inside₃ _ => ?_
  refine .same (typeName_gives formed inside₃) fun typeName s₄ forward₄ inside₄ _ => ?_
  refine (castFormat_retains formed retentive (by omega) inside₄).bind (by omega)
    fun _ s₅ forward₅ inside₅ => ?_
  refine .same (expected_gives formed inside₅) fun _ s₆ forward₆ inside₆ _ => ?_
  refine .span fun span spanned => .pure inside₆ fun _ before read covers => ?_
  rcases read with retained | ⟨later, _⟩
  · exact .of_children retained.kept rfl
  · refine .of_drops ⟨?_, ?_⟩ rfl
    · exact laid.placed_stop_le (covers.placed (Nat.le_refl _) (Nat.le_refl _)) (by omega) (by omega)
    · rw [spanned (by omega)]
      exact laid.offset_lt_stop before inside₆

theorem extract_retains (found : (input.token s.index).kind = Keyword.EXTRACT)
    (after : lo ≤ s.index + 1) (inside : s.index < input.tokens.size) :
    Retains input place s.index False s grammar.extract halting.extract
      (Expr.Retained (input.offset place)) := by
  refine .look rfl (.found formed inside found fun s₁ here₁ inside₁ => ?_)
  refine .same (expected_gives formed inside₁) fun _ s₂ forward₂ inside₂ _ => .look rfl ?_
  refine .ite (fun _ => .failed (unexpected_gives inside₂ _)) fun word => ?_
  have word : (input.token s₂.index).isWord = true := by simpa using word
  refine .advance (isWord_more formed inside₂ word) fun s₃ here₃ inside₃ => ?_
  refine .same (datePart_gives formed _ inside₃) fun part s₄ forward₄ inside₄ _ => ?_
  refine .same (expected_gives formed inside₄) fun _ s₅ forward₅ inside₅ _ => ?_
  refine (retentive.expression s₅ (by omega) inside₅).startRead (by omega)
    (retentive.sound.expression (by omega) inside₅) fun operand s₆ forward₆ inside₆ => ?_
  refine (timeZone_retains formed retentive (by omega) inside₆).bind (by omega)
    fun _ s₇ forward₇ inside₇ => ?_
  refine .same (expected_gives formed inside₇) fun _ s₈ forward₈ inside₈ _ => ?_
  refine .span fun span spanned => .pure inside₈ fun _ before read covers => ?_
  rcases read with retained | ⟨later, _⟩
  · exact .of_children retained.kept rfl
  · refine .of_drops ⟨?_, ?_⟩ rfl
    · exact laid.placed_stop_le (covers.placed (Nat.le_refl _) (Nat.le_refl _)) later (by omega)
    · rw [spanned (by omega)]
      exact laid.offset_lt_stop before inside₈

omit laid in
theorem interval_retains (found : (input.token s.index).kind = Keyword.INTERVAL)
    (after : lo ≤ s.index + 1) (inside : s.index < input.tokens.size) :
    Retains input place s.index False s grammar.interval halting.interval
      (Expr.Retained (input.offset place)) := by
  refine .look rfl (.found formed inside found fun s₁ here₁ inside₁ => ?_)
  refine (retentive.expressionAbove _ s₁ (by omega) inside₁).start (by omega)
    fun value s₂ forward₂ inside₂ => ?_
  refine .ite (fun missing => .pure inside₂ fun _ _ retained => ?_) fun _ => .look rfl ?_
  · rw [retained.present] at missing
    cases missing
  refine .ite (fun _ => .failed (unexpected_gives inside₂ _)) fun word => ?_
  have word : (input.token s₂.index).isWord = true := by simpa using word
  refine .advance (isWord_more formed inside₂ word) fun s₃ _ inside₃ => ?_
  refine .same (lastUnit_gives formed inside₃) fun toUnit s₄ _ inside₄ _ => ?_
  refine .span fun span _ => .pure inside₄ fun _ _ retained => ?_
  exact .of_children retained.kept rfl

/-! ### Queries in expressions -/

omit laid in
theorem existsQuery_retains (found : (input.token s.index).kind = Keyword.EXISTS)
    (after : lo ≤ s.index + 1) (inside : s.index < input.tokens.size) :
    Retains input place s.index False s grammar.existsQuery halting.existsQuery
      (Expr.Retained (input.offset place)) := by
  refine .look rfl (.found formed inside found fun s₁ here₁ inside₁ => ?_)
  refine .same (expected_gives formed inside₁) fun _ s₂ forward₂ inside₂ _ => ?_
  refine (retentive.query s₂ (by omega) inside₂).start (by omega) fun query s₃ _ inside₃ => ?_
  refine .same (expected_gives formed inside₃) fun _ s₄ _ inside₄ _ => ?_
  refine .span fun span _ => .pure inside₄ fun _ _ retained => .of_children ?_ rfl
  exact retainedIn_cons.2 (.inl retained)

end Grammar

end QueryLint
