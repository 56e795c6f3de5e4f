import QueryLint.Proofs.Parser.Calls
import QueryLint.Proofs.Parser.Forms

/-!
What expressions read. The operand takes up the tokens from the first one on, and each operator
that is applied extends the range of what stands to its left.
-/

namespace QueryLint

open QueryLint.Parser

namespace Grammar

variable {input : ParserInput} (formed : input.WellFormed) {grammar : Grammar} {lo : Nat}
  (sound : grammar.Sound input lo) {s : ParserState}

include formed sound

/-! ### Operands -/

theorem nameExpression_gives (more : s.index + 1 < input.tokens.size) (after : lo ≤ s.index + 1) :
    Gives input s grammar.nameExpression fun e s' => e.Covers input s.index s'.index := by
  have inside : s.index < input.tokens.size := by omega
  refine .look rfl ((path_yields formed inside).quiet fun path s₁ forward₁ inside₁ taken => ?_)
  have taken := taken more
  refine .look rfl ?_
  split
  next typeName typed =>
    have constant : (input.token s₁.index).kind = .string := by
      split at typed
      next word => exact beq_iff_eq.1 word
      next => cases typed
    refine .advance (formed.more inside₁ constant (by decide)) fun s₂ here₂ inside₂ => ?_
    refine .span fun span spanned => .pure inside₂ ?_
    exact .intro (by omega) (spanned (by omega)) trivial allWithin_nil
  next =>
    refine .look rfl ?_
    split
    · split
      · exact cast_gives formed sound rfl true taken (by omega) inside₁
      · exact call_gives formed sound rfl path taken (by omega) inside₁
    · refine .look rfl (.look rfl ?_)
      split
      next starred =>
        simp only [Bool.and_eq_true, beq_iff_eq] at starred
        have more₁ := formed.more inside₁ starred.1 (by decide)
        have more₂ := formed.more more₁ starred.2 (by decide)
        refine .advance more₁ fun s₂ here₂ inside₂ => .advance (by omega) fun s₃ here₃ inside₃ => ?_
        refine .span fun span spanned => .pure inside₃ ?_
        exact .intro (by omega) (spanned (by omega)) trivial allWithin_nil
      next =>
        refine .span fun span spanned => .pure inside₁ (.intro taken ?_ trivial allWithin_nil)
        exact (columnRef_span path span).trans (spanned (by omega))

omit formed in
theorem signed_gives (precedence : Precedence) (more : s.index + 1 < input.tokens.size)
    (after : lo ≤ s.index + 1) :
    Gives input s (grammar.signed (input.token s.index) precedence) fun e s' =>
      e.Covers input s.index s'.index := by
  refine .advance more fun s₁ here₁ inside₁ => ?_
  refine (sound.expressionAbove _ s₁ (by omega) inside₁).bind fun operand s₂ forward₂ inside₂ => ?_
  split
  next missing => exact .pure inside₂ fun _ read => by simp [read.1] at missing
  next =>
    refine .span fun span spanned => .pure inside₂ fun _ read => ?_
    exact .intro (by omega) (spanned (by omega)) read.1
      (read.placed (by omega) (Nat.le_refl _)).present

theorem tupleField_takes (after : lo ≤ s.index + 1) (inside : s.index < input.tokens.size) :
    Takes input s grammar.tupleField fun i j field => field.expr.Placed input i j := by
  refine .accept formed inside (fun _ s₁ here₁ inside₁ => ?_) fun _ => .none inside
  refine (sound.expression (by omega) inside₁).bind fun e s₂ forward₂ inside₂ => ?_
  refine .pure inside₂ fun _ read field member => ?_
  cases member
  exact read.placed (by omega) (Nat.le_refl _)

theorem parenthesized_gives (more : s.index + 1 < input.tokens.size) (after : lo ≤ s.index + 1) :
    Gives input s grammar.parenthesized fun e s' => e.Covers input s.index s'.index := by
  refine .look rfl (.look rfl (.look rfl (.advance more fun s₁ here₁ inside₁ => ?_)))
  split
  · refine (sound.query s₁ (by omega) inside₁).bind fun query s₂ forward₂ inside₂ => ?_
    refine (expected_gives formed inside₂).bind fun _ s₃ forward₃ inside₃ => ?_
    refine .span fun span spanned => .pure inside₃ fun _ _ _ read => ?_
    exact .intro (by omega) (spanned (by omega)) trivial
      (allWithin_singleton.2 (read.within (by omega) (by omega)))
  · refine (sound.expression (by omega) inside₁).bind fun first s₂ forward₂ inside₂ => ?_
    split
    next missing => exact .pure inside₂ fun _ read => by simp [read.1] at missing
    next =>
      refine .look rfl ?_
      split
      · refine .look rfl ((repeated_gives widens_named
          (fun _ after inside => tupleField_takes formed sound (Nat.le_succ_of_le after) inside) _
            s₂ (by omega) inside₂ (Nat.lt_succ_self _)).bind fun others s₃ forward₃ inside₃ => ?_)
        refine (expected_gives formed inside₃).bind fun _ s₄ forward₄ inside₄ => ?_
        refine .span fun span spanned => .pure inside₄ fun _ _ _ rest _ read => ?_
        have placed (field : NamedExpr) (member : field ∈ (⟨first, ""⟩ : NamedExpr) :: others) :
            field.expr.Placed input s.index s₄.index := by
          rcases List.mem_cons.1 member with rfl | member
          · exact read.placed (by omega) (by omega)
          · exact (rest field member).widen (by omega) (by omega)
        exact .intro (by omega) (spanned (by omega)) (fun field member => (placed field member).1)
          (allWithin_namedNodes placed)
      · refine (expected_gives formed inside₂).bind fun _ s₃ forward₃ inside₃ => ?_
        refine .span fun span spanned => .pure inside₃ fun _ _ _ read => ?_
        exact .intro (by omega) (spanned (by omega)) read.1
          (read.placed (by omega) (by omega)).present

omit sound in
theorem literalOf_gives (kind : LiteralKind) (proper : (input.token s.index).kind ≠ .endOfInput)
    (inside : s.index < input.tokens.size) :
    Gives input s (do advance; return literalOf (input.token s.index) kind) fun e s' =>
      e.Covers input s.index s'.index := by
  refine .advance (formed.more inside rfl proper) fun s₁ here₁ inside₁ => .pure inside₁ ?_
  refine .intro (by omega) ?_ trivial allWithin_nil
  rw [here₁, input.cover_one]
  rfl

omit sound in
theorem startsName_more (inside : s.index < input.tokens.size) {next : Token}
    (starts : startsName (input.token s.index) next = true) :
    s.index + 1 < input.tokens.size := by
  refine formed.more inside rfl fun last => ?_
  simp [startsName, last, TokenKind.isSoft, TokenKind.isWord] at starts

theorem plainOperand_gives (after : lo ≤ s.index + 1) (inside : s.index < input.tokens.size) :
    Gives input s (grammar.plainOperand (input.token s.index)) fun e s' =>
      e.Covers input s.index s'.index := by
  have proper {kind : TokenKind} [inner : kind.Inner]
      (found : (input.token s.index).kind = kind) : (input.token s.index).kind ≠ .endOfInput :=
    found ▸ inner.ne_endOfInput
  have more {kind : TokenKind} [inner : kind.Inner]
      (found : (input.token s.index).kind = kind) : s.index + 1 < input.tokens.size :=
    formed.more inside found inner.ne_endOfInput
  unfold plainOperand
  split
  next found => exact literalOf_gives formed .number (proper found) inside
  next found => exact literalOf_gives formed .string (proper found) inside
  next found => exact literalOf_gives formed .bool (proper found) inside
  next found => exact literalOf_gives formed .bool (proper found) inside
  next found => exact literalOf_gives formed .null (proper found) inside
  next found => exact signed_gives sound _ (more found) after
  next found => exact signed_gives sound _ (more found) after
  next found => exact signed_gives sound _ (more found) after
  next found => exact signed_gives sound _ (more found) after
  next found => exact parenthesized_gives formed sound (more found) after
  next found => exact caseDistinction_gives formed sound found after inside
  next found =>
    refine .advance (more found) fun s₁ here₁ inside₁ => ?_
    exact cast_gives formed sound rfl false (by omega) (by omega) inside₁
  next found => exact extract_gives formed sound found after inside
  next found => exact interval_gives formed sound found after inside
  next found => exact existsQuery_gives formed sound found after inside
  next found =>
    refine .advance (more found) fun s₁ here₁ inside₁ => .span fun span spanned => ?_
    exact .pure inside₁ (.intro (by omega) (spanned (by omega)) trivial allWithin_nil)
  next =>
    refine .look rfl ?_
    split
    next starts => exact nameExpression_gives formed sound (startsName_more formed inside starts) after
    next => exact .failed (fault_gives inside _)

theorem operand_gives (after : lo ≤ s.index + 1) (inside : s.index < input.tokens.size) :
    Gives input s grammar.operand fun e s' => e.Covers input s.index s'.index := by
  refine .look rfl (.look rfl ?_)
  split
  next form opens =>
    have more : s.index + 1 < input.tokens.size := by
      refine formed.more inside rfl fun last => ?_
      rw [last, formed.opening] at opens
      cases opens
    refine (Attempt.orNote_gives (opening_gives formed sound form more after)).bind
      fun result s₁ forward₁ inside₁ => .pure inside₁ fun _ ⟨e, ok, read⟩ => ?_
    rw [ok]
    exact read
  next => exact plainOperand_gives formed sound after inside

/-! ### Operators after an operand -/

section Operators

variable {operand : Expr} {i j : Nat} (operated : operand.Covers input i j) (before : j ≤ s.index)

include operated before

theorem membership_gives (negated : Bool) (after : lo ≤ s.index)
    (inside : s.index < input.tokens.size) :
    Gives input s (grammar.membership operand negated) fun e s' => e.Covers input i s'.index := by
  have nonempty := operated.2.nonempty
  refine .look rfl (.look rfl ?_)
  split
  next unnested =>
    simp only [Bool.and_eq_true, beq_iff_eq] at unnested
    have more₁ := formed.more inside unnested.1.1 (by decide)
    have more₂ := formed.more more₁ unnested.2 (by decide)
    refine .advance more₁ fun s₁ here₁ inside₁ => .advance (by omega) fun s₂ here₂ inside₂ => ?_
    refine (sound.expression (by omega) inside₂).bind fun set s₃ forward₃ inside₃ => ?_
    refine (expected_gives formed inside₃).bind fun _ s₄ forward₄ inside₄ => ?_
    refine .span fun span spanned => .pure inside₄ fun _ _ _ read => ?_
    refine .intro (by omega) (operated.extend (by omega) spanned) ⟨operated.1, read.1⟩ ?_
    exact allWithin_append.2 ⟨(operated.placed (Nat.le_refl _) (by omega)).present,
      (read.placed (by omega) (by omega)).present⟩
  next =>
    refine .expect formed inside (fun _ s₁ here₁ inside₁ => .look rfl (.look rfl ?_))
      fun _ _ inside => .pure inside trivial
    split
    · refine (sound.query s₁ (by omega) inside₁).bind fun query s₂ forward₂ inside₂ => ?_
      refine (expected_gives formed inside₂).bind fun _ s₃ forward₃ inside₃ => ?_
      refine .span fun span spanned => .pure inside₃ fun _ _ _ read => ?_
      refine .intro (by omega) (operated.extend (by omega) spanned) operated.1 ?_
      exact allWithin_append.2 ⟨(operated.placed (Nat.le_refl _) (by omega)).present,
        allWithin_singleton.2 (read.within (by omega) (by omega))⟩
    · refine (expressions_gives formed sound (by omega) inside₁).bind
        fun values s₂ forward₂ inside₂ => ?_
      refine (expected_gives formed inside₂).bind fun _ s₃ forward₃ inside₃ => ?_
      refine .span fun span spanned => .pure inside₃ fun _ _ _ ⟨nonempty', read⟩ => ?_
      refine .intro (by omega) (operated.extend (by omega) spanned)
        ⟨operated.1, nonempty', fun e member => (read e member).1⟩ ?_
      exact allWithin_append.2 ⟨(operated.placed (Nat.le_refl _) (by omega)).present,
        allWithin_exprNodes fun e member => (read e member).widen (by omega) (by omega)⟩

theorem isTest_gives (after : lo ≤ s.index) (inside : s.index < input.tokens.size) :
    Gives input s (grammar.isTest operand) fun e s' => e.Covers input i s'.index := by
  have nonempty := operated.2.nonempty
  refine (accept_gives inside _).bind fun negated s₁ forward₁ inside₁ => .look rfl ?_
  have tested {e : Span → Expr} (spans : ∀ span, (e span).span = span)
      (whole : ∀ span, (e span).Whole) (children : ∀ span, (e span).children = operand.present)
      (proper : (input.token s₁.index).kind ≠ .endOfInput) :
      Gives input s₁ (do
        advance
        return e (← spanFrom operand.span.start)) fun e s' => s₁.errors = s.errors → True →
          e.Covers input i s'.index := by
    refine .advance (formed.more inside₁ rfl proper) fun s₂ here₂ inside₂ => ?_
    refine .span fun span spanned => .pure inside₂ fun _ _ => ?_
    refine .intro (by omega) ?_ (whole span) ?_
    · rw [spans]
      exact operated.extend (by omega) spanned
    · rw [children]
      exact (operated.placed (Nat.le_refl _) (by omega)).present
  split
  next found =>
    exact tested (fun _ => rfl) (fun _ => operated.1) (fun _ => rfl) (by simp [found])
  next found =>
    exact tested (fun _ => rfl) (fun _ => operated.1) (fun _ => rfl) (by simp [found])
  next found =>
    exact tested (fun _ => rfl) (fun _ => operated.1) (fun _ => rfl) (by simp [found])
  next found =>
    refine .advance (formed.more inside₁ found (by decide)) fun s₂ here₂ inside₂ => ?_
    refine (expected_gives formed inside₂).bind fun _ s₃ forward₃ inside₃ => ?_
    refine (sound.expressionAbove _ s₃ (by omega) inside₃).bind fun right s₄ forward₄ inside₄ => ?_
    refine .span fun span spanned => .pure inside₄ fun _ read _ _ _ _ => ?_
    refine .intro (by omega) (operated.extend (by omega) spanned) ⟨operated.1, read.1⟩ ?_
    exact allWithin_append.2 ⟨(operated.placed (Nat.le_refl _) (by omega)).present,
      (read.placed (by omega) (by omega)).present⟩
  next => exact .failed (unexpected_gives inside₁ _)

omit sound in
theorem fieldAccess_gives (more : s.index + 1 < input.tokens.size) :
    Gives input s (fieldAccess operand) fun e s' =>
      s.index < s'.index ∧ e.Covers input i s'.index := by
  have nonempty := operated.2.nonempty
  refine .advance more fun s₁ here₁ inside₁ => ?_
  refine .accept formed inside₁ (fun _ s₂ here₂ inside₂ => ?_) fun _ => ?_
  · refine .span fun span spanned => .pure inside₂ ?_
    exact ⟨by omega, .intro (by omega) (operated.extend (by omega) spanned) trivial allWithin_nil⟩
  · refine (Attempt.orNote_gives (identifier_gives formed inside₁)).bind
      fun name s₂ forward₂ inside₂ => ?_
    cases name with
    | none => exact .pure inside₂ fun _ ⟨_, impossible, _⟩ => nomatch impossible
    | some name =>
      refine .span fun span spanned => .pure inside₂ fun _ _ => ?_
      exact ⟨by omega, .intro (by omega) (operated.extend (by omega) spanned) operated.1
        (operated.placed (Nat.le_refl _) (by omega)).present⟩

theorem applyOperator_gives (precedence : Precedence) (negated : Bool)
    (more : s.index + 1 < input.tokens.size) (after : lo ≤ s.index + 1) :
    Gives input s (grammar.applyOperator operand precedence negated) fun e s' =>
      s.index < s'.index ∧ e.Covers input i s'.index := by
  have nonempty := operated.2.nonempty
  refine .look rfl ?_
  split
  · refine .advance more fun s₁ here₁ inside₁ => ?_
    exact (membership_gives formed sound operated (by omega) negated (by omega) inside₁).mono
      fun _ _ forward read => ⟨by omega, read⟩
  · refine .advance more fun s₁ here₁ inside₁ => ?_
    refine (sound.expressionAbove _ s₁ (by omega) inside₁).bind
      fun pattern s₂ forward₂ inside₂ => ?_
    refine .span fun span spanned => .pure inside₂ fun _ read => ?_
    refine ⟨by omega, .intro (by omega) (operated.extend (by omega) spanned) ⟨operated.1, read.1⟩ ?_⟩
    exact allWithin_append.2 ⟨(operated.placed (Nat.le_refl _) (by omega)).present,
      (read.placed (by omega) (by omega)).present⟩
  · refine .advance more fun s₁ here₁ inside₁ => ?_
    refine (sound.expressionAbove _ s₁ (by omega) inside₁).bind fun low s₂ forward₂ inside₂ => ?_
    refine (expected_gives formed inside₂).bind fun _ s₃ forward₃ inside₃ => ?_
    refine (sound.expressionAbove _ s₃ (by omega) inside₃).bind fun high s₄ forward₄ inside₄ => ?_
    refine .span fun span spanned => .pure inside₄ fun _ high _ _ _ low => ?_
    refine ⟨by omega, .intro (by omega) (operated.extend (by omega) spanned) ⟨operated.1, low.1, high.1⟩ ?_⟩
    simp only [Expr.children, allWithin_append]
    exact ⟨⟨(operated.placed (Nat.le_refl _) (by omega)).present,
      (low.placed (by omega) (by omega)).present⟩, (high.placed (by omega) (by omega)).present⟩
  · refine .advance more fun s₁ here₁ inside₁ => ?_
    exact (isTest_gives formed sound operated (by omega) (by omega) inside₁).mono
      fun _ _ forward read => ⟨by omega, read⟩
  · refine .look rfl ?_
    split
    next form _ =>
      refine .advance more fun s₁ here₁ inside₁ => ?_
      refine (Attempt.orNote_gives (continuing_gives formed sound operated (by omega) form
        (by omega) inside₁)).bind fun result s₂ forward₂ inside₂ => ?_
      refine .pure inside₂ fun _ found => ?_
      obtain ⟨e, ok, read⟩ := found
      rw [ok]
      exact ⟨by omega, read⟩
    next =>
      refine .advance more fun s₁ here₁ inside₁ => ?_
      refine (sound.expressionAbove _ s₁ (by omega) inside₁).bind
        fun right s₂ forward₂ inside₂ => ?_
      split
      next missing => exact .pure inside₂ fun _ read => by simp [read.1] at missing
      next =>
        refine .span fun span spanned => .pure inside₂ fun _ read => ?_
        refine ⟨by omega, .intro (by omega) (operated.extend (by omega) spanned) ⟨operated.1, read.1⟩ ?_⟩
        exact allWithin_append.2 ⟨(operated.placed (Nat.le_refl _) (by omega)).present,
          (read.placed (by omega) (by omega)).present⟩

end Operators

/-- One operator takes a token and extends the operand; without one nothing is taken. -/
def Applied (input : ParserInput) (i : Nat) (s : ParserState) (applied : Option Expr)
    (s' : ParserState) : Prop :=
  match applied with
  | none => s' = s
  | some e => s'.errors = s.errors → s.index < s'.index ∧ e.Covers input i s'.index

omit formed sound in
theorem applied_none {i : Nat} (inside : s.index < input.tokens.size) :
    Yields input s (pure none) (Applied input i s) :=
  ⟨none, s, rfl, .refl inside, rfl⟩

omit formed sound in
theorem applied_some {i : Nat} {p : Parser Expr} {t : ParserState} (same : t.errors = s.errors)
    (before : t.index ≤ s.index)
    (gives : Gives input s p fun e s' => s.index < s'.index ∧ e.Covers input i s'.index) :
    Yields input s (do return some (← p)) (Applied input i t) := by
  refine Yields.bind gives fun e s' moves read => ⟨some e, s', rfl, .refl moves.inside, ?_⟩
  intro clean
  have read := read (clean.trans same)
  exact ⟨Nat.lt_of_le_of_lt before read.1, read.2⟩

theorem nextOperator_yields {operand : Expr} {i : Nat}
    (operated : operand.Covers input i s.index) (above : Precedence) (after : lo ≤ s.index + 1)
    (inside : s.index < input.tokens.size) :
    Yields input s (grammar.nextOperator above operand) (Applied input i s) := by
  refine .look rfl ?_
  split
  next found =>
    have more := formed.more inside found (by decide)
    refine .look rfl ?_
    dsimp only
    split
    next negated =>
      have proper : (input.token (s.index + 1)).kind ≠ .endOfInput := by
        intro last
        simp [last] at negated
      have gives := applyOperator_gives formed sound operated (Nat.le_succ _)
        Precedence.comparison true (s := s.next) (formed.more more rfl proper) (by simp; omega)
      exact .step (advance_eq more) (applied_some rfl (Nat.le_succ _) gives)
    · exact applied_none inside
  next dotted =>
    split
    · exact applied_some rfl (Nat.le_refl _) (fieldAccess_gives formed operated (Nat.le_refl _)
        (formed.more inside dotted (by decide)))
    · exact applied_none inside
  next =>
    refine .look rfl ?_
    dsimp only
    split
    · exact applied_none inside
    next binds =>
      have proper : (input.token s.index).kind ≠ .endOfInput := by
        intro last
        simp [last, formed.operator] at binds
      exact applied_some rfl (Nat.le_refl _) (applyOperator_gives formed sound operated (Nat.le_refl _) _ false
        (formed.more inside rfl proper) after)

theorem operators_yields {i : Nat} (above : Precedence) (mark bound : Nat) (operand : Expr)
    (s : ParserState) (marked : mark ≤ s.errors.length)
    (read : s.errors.length ≤ mark → operand.Covers input i s.index)
    (after : lo ≤ s.index + 1) (inside : s.index < input.tokens.size)
    (enough : s.errors.length ≤ mark → input.tokens.size - s.index < bound)
    (positive : 0 < bound) :
    Yields input s (grammar.operators above mark bound operand) fun e s' =>
      s'.errors.length ≤ mark → e.Covers input i s'.index := by
  induction bound generalizing operand s with
  | zero => omega
  | succ bound ih =>
    refine .look rfl ?_
    split
    next => exact ⟨operand, s, rfl, .refl inside, read⟩
    next clean =>
      have clean : s.errors.length ≤ mark := by simpa using clean
      refine (nextOperator_yields formed sound (read clean) above after inside).bind
        fun applied s' moves applies => ?_
      have forward := moves.forward
      cases applied with
      | none =>
        obtain rfl : s' = s := applies
        exact ⟨operand, s', rfl, .refl inside, read⟩
      | some e =>
        have enough := enough clean
        have inside' := moves.inside
        -- the operator took a token, unless it noted an error, which ends the loop
        have applies (clean' : s'.errors.length ≤ mark) :
            s.index < s'.index ∧ e.Covers input i s'.index :=
          applies (moves.noted.eq_of_length_le (Nat.le_trans clean' marked)).symm
        refine ih e s' (Nat.le_trans marked moves.noted.length_le) (fun clean' => (applies clean').2)
          (by omega) inside' (fun clean' => ?_) (by omega)
        have taken := (applies clean').1
        omega

theorem readExpression_gives (above : Precedence) (after : lo ≤ s.index + 1)
    (inside : s.index < input.tokens.size) :
    Gives input s (grammar.readExpression above) fun e s' => e.Covers input s.index s'.index := by
  refine .look rfl ?_
  refine Yields.bind (operand_gives formed sound after inside) fun operand s' moves read => ?_
  split
  next missing =>
    refine ⟨operand, s', rfl, .refl moves.inside, fun clean => ?_⟩
    simp [(read clean).1] at missing
  next =>
    have forward := moves.forward
    have clean (quiet : s'.errors.length ≤ s.errors.length) : s'.errors = s.errors :=
      (moves.noted.eq_of_length_le quiet).symm
    refine .look rfl ((operators_yields (i := s.index) formed sound above s.errors.length _ operand
      s' moves.noted.length_le (fun quiet => read (clean quiet)) (by omega) moves.inside
      (fun _ => Nat.lt_succ_self _) (Nat.succ_pos _)).mono fun e s'' _ read same => ?_)
    exact read (Nat.le_of_eq (congrArg List.length same))

end Grammar

end QueryLint
