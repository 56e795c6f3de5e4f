import QueryLint.Proofs.Parser.Expressions
import QueryLint.Proofs.Parser.Retention.Forms

/-!
What expressions retain. An operator keeps its left operand and what it reads after it, except that
`expr.*` drops the whole value before the star. Where the halting grammar stops at an operand, that
operand is the column itself.
-/

namespace QueryLint

open QueryLint.Parser

namespace Grammar

variable {source : Text.Bytes} {input : ParserInput} (formed : input.WellFormed)
  (laid : input.Laid source) {place lo : Nat} {grammar halting : Grammar}
  (retentive : grammar.Retentive input place lo halting) {s : ParserState}

include formed laid retentive

/-! ### Operands -/

theorem nameExpression_retains (more : s.index + 1 < input.tokens.size) (after : lo ≤ s.index + 1) :
    Retains input place s.index False s grammar.nameExpression halting.nameExpression
      (Expr.Retained (input.offset place)) := by
  have inside : s.index < input.tokens.size := by omega
  refine .look rfl (.same (path_yields formed inside) fun path s₁ forward₁ inside₁ taken => ?_)
  have taken := taken.2 more
  refine .look rfl ?_
  cases (if (input.token s₁.index).kind == .string then literalType? path else none) with
  | some typeName =>
    refine .same (advance_gives inside₁) fun _ s₂ _ inside₂ _ => ?_
    exact .span fun span _ => .pure inside₂ nofun
  | none =>
    refine .look rfl (.ite (fun _ => .ite (fun _ => ?_) fun _ => ?_) fun _ => .look rfl (.look rfl ?_))
    · exact (cast_retains formed laid retentive _ true (by omega) inside₁).last (by omega)
        fun _ _ read => (read.resolve_left id).2
    · exact (call_retains formed laid retentive _ path (by omega) inside₁).last (by omega)
        fun _ _ read => (read.resolve_left id).2
    · refine .ite (fun _ => ?_) fun _ => .span fun span _ => .pure inside₁ nofun
      refine .same (advance_gives inside₁) fun _ s₂ _ inside₂ _ => ?_
      refine .same (advance_gives inside₂) fun _ s₃ _ inside₃ _ => ?_
      exact .span fun span _ => .pure inside₃ nofun

omit formed laid in
theorem signed_retains (token : Token) (precedence : Precedence)
    (more : s.index + 1 < input.tokens.size) (after : lo ≤ s.index + 1) :
    Retains input place s.index False s (grammar.signed token precedence)
      (halting.signed token precedence) (Expr.Retained (input.offset place)) := by
  refine .advance more fun s₁ here₁ inside₁ => ?_
  refine (retentive.expressionAbove _ s₁ (by omega) inside₁).start (by omega)
    fun operand s₂ _ inside₂ => ?_
  refine .ite (fun missing => .pure inside₂ fun _ _ retained => ?_) fun _ => ?_
  · rw [retained.present] at missing
    cases missing
  · refine .span fun span _ => .pure inside₂ fun _ _ retained => ?_
    exact .of_children retained.kept rfl

omit laid in
theorem tupleField_retains (after : lo ≤ s.index + 1) (inside : s.index < input.tokens.size) :
    Retains input place s.index False s grammar.tupleField halting.tupleField
      fun found => ∃ field ∈ found, RetainedIn (input.offset place) field.expr.present := by
  refine .accept formed inside (fun _ s₁ here₁ inside₁ => ?_) fun _ => .pure inside nofun
  refine (retentive.expression s₁ (by omega) inside₁).start (by omega) fun e s₂ _ inside₂ => ?_
  exact .pure inside₂ fun _ _ retained => ⟨_, rfl, retained.kept⟩

omit laid in
theorem parenthesized_retains (more : s.index + 1 < input.tokens.size) (after : lo ≤ s.index + 1) :
    Retains input place s.index False s grammar.parenthesized halting.parenthesized
      (Expr.Retained (input.offset place)) := by
  refine .look rfl (.look rfl (.look rfl (.advance more fun s₁ here₁ inside₁ => ?_)))
  refine .ite (fun _ => ?_) fun _ => ?_
  · refine (retentive.query s₁ (by omega) inside₁).start (by omega) fun query s₂ _ inside₂ => ?_
    refine .same (expected_gives formed inside₂) fun _ s₃ _ inside₃ _ => ?_
    refine .span fun span _ => .pure inside₃ fun _ _ retained => .of_children ?_ rfl
    exact retainedIn_cons.2 (.inl retained)
  · refine (retentive.expression s₁ (by omega) inside₁).start (by omega)
      fun first s₂ forward₂ inside₂ => ?_
    refine .ite (fun missing => .pure inside₂ fun _ _ retained => ?_)
      fun _ => .look rfl (.ite (fun _ => .look rfl ?_) fun _ => ?_)
    · rw [retained.present] at missing
      cases missing
    · have fields : RetainsAll input place lo _ _ _ := fun _ after inside =>
        tupleField_retains formed retentive (Nat.le_succ_of_le after) inside
      refine (repeated_retains fields _ s₂ (by omega) inside₂).bind (by omega)
        fun others s₃ _ inside₃ => ?_
      refine .same (expected_gives formed inside₃) fun _ s₄ _ inside₄ _ => ?_
      refine .span fun span _ => .pure inside₄ fun _ _ read => .of_children ?_ rfl
      rw [Expr.children, retainedIn_namedNodes]
      rcases read with retained | ⟨_, field, listed, retained⟩
      · exact ⟨_, List.mem_cons_self, retained.kept⟩
      · exact ⟨field, List.mem_cons_of_mem _ listed, retained⟩
    · refine .same (expected_gives formed inside₂) fun _ s₃ _ inside₃ _ => ?_
      refine .span fun span _ => .pure inside₃ fun _ _ retained => ?_
      exact .of_children retained.kept rfl

theorem plainOperand_retains (after : lo ≤ s.index + 1) (inside : s.index < input.tokens.size) :
    Retains input place s.index False s (grammar.plainOperand (input.token s.index))
      (halting.plainOperand (input.token s.index)) (Expr.Retained (input.offset place)) := by
  have constant (kind : LiteralKind) : Retains input place s.index False s
      (do advance; return literalOf (input.token s.index) kind)
      (do advance; return literalOf (input.token s.index) kind)
      (Expr.Retained (input.offset place)) :=
    .same (advance_gives inside) fun _ _ _ inside _ => .pure inside nofun
  have named : Retains input place s.index False s
      (do
        if startsName (input.token s.index) (← lookahead) then grammar.nameExpression
        else
          fault (.unexpectedInput (input.token s.index))
          return .missing)
      (do
        if startsName (input.token s.index) (← lookahead) then halting.nameExpression
        else
          fault (.unexpectedInput (input.token s.index))
          return .missing) (Expr.Retained (input.offset place)) := by
    refine .look rfl (.ite (fun starts => ?_) fun _ => .failed (fault_gives inside _))
    exact nameExpression_retains formed laid retentive (startsName_more formed inside starts) after
  unfold plainOperand
  generalize found : (input.token s.index).kind = kind
  have more (other : kind ≠ .endOfInput) : s.index + 1 < input.tokens.size :=
    formed.more inside found other
  cases kind with
  | number => exact constant .number
  | string => exact constant .string
  | keyword keyword =>
    cases keyword with
    | TRUE | FALSE => exact constant .bool
    | NULL => exact constant .null
    | NOT => exact signed_retains retentive _ _ (more TokenKind.Inner.ne_endOfInput) after
    | CASE => exact caseDistinction_retains formed retentive found after inside
    | CAST =>
      refine .advance (more TokenKind.Inner.ne_endOfInput) fun s₁ here₁ inside₁ => ?_
      exact (cast_retains formed laid retentive _ false (by omega) inside₁).last (by omega)
        fun _ _ read => (read.resolve_left id).2
    | EXTRACT => exact extract_retains formed laid retentive found after inside
    | INTERVAL => exact interval_retains formed retentive found after inside
    | EXISTS => exact existsQuery_retains formed retentive found after inside
    | _ => exact named
  | symbol symbol =>
    cases symbol with
    | minus | plus | tilde => exact signed_retains retentive _ _ (more TokenKind.Inner.ne_endOfInput) after
    | leftParen => exact parenthesized_retains formed retentive (more TokenKind.Inner.ne_endOfInput) after
    | star =>
      refine .same (advance_gives inside) fun _ s₁ _ inside₁ _ => ?_
      exact .span fun span _ => .pure inside₁ nofun
    | _ => exact named
  | _ => exact named

theorem operand_retains (after : lo ≤ s.index + 1) (inside : s.index < input.tokens.size) :
    Retains input place s.index False s grammar.operand halting.operand
      (Expr.Retained (input.offset place)) := by
  refine .look rfl (.look rfl ?_)
  cases opens : input.dialect.openingForm? (input.token s.index).kind with
  | some form =>
    have more : s.index + 1 < input.tokens.size := by
      refine formed.more inside rfl fun last => ?_
      rw [last, formed.opening] at opens
      cases opens
    refine (Attempt.orNote_retains (opening_retains formed retentive form more after)).start (by omega)
      fun result s₁ _ inside₁ => .pure inside₁ ?_
    rintro _ _ ⟨e, rfl, retained⟩
    exact retained
  | none => exact plainOperand_retains formed laid retentive after inside

/-! ### Operators after an operand -/

omit laid in
theorem membership_retains (operand : Expr) (negated : Bool) {first : Nat} (before : first ≤ s.index)
    (after : lo ≤ s.index) (inside : s.index < input.tokens.size) :
    Retains input place first (operand.Retained (input.offset place)) s
      (grammar.membership operand negated) (halting.membership operand negated)
      (Expr.Retained (input.offset place)) := by
  refine .look rfl (.look rfl (.ite (fun _ => ?_) fun _ => ?_))
  · refine .same (advance_gives inside) fun _ s₁ _ inside₁ _ => ?_
    refine .same (advance_gives inside₁) fun _ s₂ _ inside₂ _ => ?_
    refine (retentive.expression s₂ (by omega) inside₂).bind (by omega) fun set s₃ _ inside₃ => ?_
    refine .same (expected_gives formed inside₃) fun _ s₄ _ inside₄ _ => ?_
    refine .span fun span _ => .pure inside₄ fun _ _ read => .of_children ?_ rfl
    exact retainedIn_append.2 (read.imp (fun retained => retained.kept) fun retained =>
      retained.2.kept)
  · refine .expect formed inside (fun _ s₁ here₁ inside₁ => .look rfl (.look rfl ?_)) ⟨_, rfl⟩
    refine .ite (fun _ => ?_) fun _ => ?_
    · refine (retentive.query s₁ (by omega) inside₁).bind (by omega) fun query s₂ _ inside₂ => ?_
      refine .same (expected_gives formed inside₂) fun _ s₃ _ inside₃ _ => ?_
      refine .span fun span _ => .pure inside₃ fun _ _ read => .of_children ?_ rfl
      exact retainedIn_append.2 (read.imp (fun retained => retained.kept) fun retained =>
        retainedIn_cons.2 (.inl retained.2))
    · refine (expressions_retains retentive s₁ (by omega) inside₁).bind (by omega)
        fun values s₂ _ inside₂ => ?_
      refine .same (expected_gives formed inside₂) fun _ s₃ _ inside₃ _ => ?_
      refine .span fun span _ => .pure inside₃ fun _ _ read => .of_children ?_ rfl
      exact retainedIn_append.2 (read.imp (fun retained => retained.kept) And.right)

omit laid in
theorem isTest_retains (operand : Expr) {first : Nat} (before : first ≤ s.index)
    (after : lo ≤ s.index) (inside : s.index < input.tokens.size) :
    Retains input place first (operand.Retained (input.offset place)) s (grammar.isTest operand)
      (halting.isTest operand) (Expr.Retained (input.offset place)) := by
  refine .same (accept_gives inside _) fun negated s₁ forward₁ inside₁ _ => .look rfl ?_
  have other : Retains input place first (operand.Retained (input.offset place)) s₁
      (do unexpected "NULL, TRUE, FALSE or DISTINCT"; return operand)
      (do unexpected "NULL, TRUE, FALSE or DISTINCT"; return operand)
      (Expr.Retained (input.offset place)) :=
    .failed (unexpected_gives inside₁ _)
  generalize found : (input.token s₁.index).kind = kind
  cases kind with
  | keyword keyword =>
    cases keyword with
    | NULL | TRUE | FALSE =>
      refine .same (advance_gives inside₁) fun _ s₂ _ inside₂ _ => ?_
      refine .span fun span _ => .pure inside₂ fun _ _ retained => ?_
      exact .of_children retained.kept rfl
    | DISTINCT =>
      refine .same (advance_gives inside₁) fun _ s₂ _ inside₂ _ => ?_
      refine .same (expected_gives formed inside₂) fun _ s₃ _ inside₃ _ => ?_
      refine (retentive.expressionAbove _ s₃ (by omega) inside₃).bind (by omega)
        fun right s₄ _ inside₄ => ?_
      refine .span fun span _ => .pure inside₄ fun _ _ read => .of_children ?_ rfl
      exact retainedIn_append.2 (read.imp (fun retained => retained.kept) fun retained =>
        retained.2.kept)
    | _ => exact other
  | _ => exact other

omit retentive in
/-- `expr.*` drops the value: everything from its first token on. -/
theorem fieldAccess_retains {operand : Expr} {i j : Nat} (operated : operand.Covers input i j)
    (before : j ≤ s.index) (inside : s.index < input.tokens.size) :
    Retains input place i (operand.Retained (input.offset place)) s (fieldAccess operand)
      (fieldAccess operand) (Expr.Retained (input.offset place)) := by
  have nonempty := operated.2.nonempty
  refine .same (advance_gives inside) fun _ s₁ forward₁ inside₁ _ => ?_
  refine .accept formed inside₁ (fun _ s₂ here₂ inside₂ => ?_) fun _ => ?_
  · refine .span fun span spanned => .pure inside₂ fun later earlier _ => ?_
    refine .of_drops ⟨rfl, ?_, ?_⟩ rfl
    · rw [operated.extend (by omega) spanned]
      exact laid.start_le later (by omega)
    · rw [spanned (by omega)]
      exact laid.offset_lt_stop earlier inside₂
  · refine .same (Attempt.orNote_gives (identifier_gives formed inside₁))
      fun name s₂ _ inside₂ _ => ?_
    cases name with
    | none => exact .pure inside₂ fun _ _ retained => retained
    | some name =>
      refine .span fun span _ => .pure inside₂ fun _ _ retained => ?_
      exact .of_children retained.kept rfl

theorem applyOperator_retains (operand : Expr) (precedence : Precedence) (negated : Bool)
    {first : Nat} (before : first ≤ s.index) (more : s.index + 1 < input.tokens.size)
    (after : lo ≤ s.index + 1) :
    Retains input place first (operand.Retained (input.offset place)) s
      (grammar.applyOperator operand precedence negated)
      (halting.applyOperator operand precedence negated)
      (Expr.Retained (input.offset place)) := by
  have other (kind : TokenKind) : Retains input place first (operand.Retained (input.offset place)) s
      (grammar.otherOperator operand precedence kind)
      (halting.otherOperator operand precedence kind) (Expr.Retained (input.offset place)) := by
    unfold Grammar.otherOperator
    refine .look rfl ?_
    cases input.dialect.continuingForm? kind with
    | some form =>
      refine .advance more fun s₁ here₁ inside₁ => ?_
      refine (Attempt.orNote_retains (continuing_retains formed laid retentive operand form
        (by omega) (by omega) inside₁)).seq fun result s₂ _ moves => .pure moves.inside ?_
      rintro _ _ ⟨e, rfl, retained⟩ _
      exact retained
    | none =>
      refine .advance more fun s₁ here₁ inside₁ => ?_
      refine (retentive.expressionAbove _ s₁ (by omega) inside₁).bind (by omega)
        fun right s₂ _ inside₂ => ?_
      refine .ite (fun missing => .pure inside₂ fun _ _ read => ?_) fun _ => ?_
      · refine read.resolve_right fun retained => ?_
        rw [retained.2.present] at missing
        cases missing
      · refine .span fun span _ => .pure inside₂ fun _ _ read => .of_children ?_ rfl
        exact retainedIn_append.2 (read.imp (fun retained => retained.kept) fun retained =>
          retained.2.kept)
  refine .look rfl ?_
  generalize (input.token s.index).kind = kind
  cases kind with
  | keyword keyword =>
    cases keyword with
    | IN =>
      refine .advance more fun s₁ here₁ inside₁ => ?_
      exact membership_retains formed retentive operand negated (by omega) (by omega) inside₁
    | LIKE =>
      refine .advance more fun s₁ here₁ inside₁ => ?_
      refine (retentive.expressionAbove _ s₁ (by omega) inside₁).bind (by omega)
        fun pattern s₂ _ inside₂ => ?_
      refine .span fun span _ => .pure inside₂ fun _ _ read => .of_children ?_ rfl
      exact retainedIn_append.2 (read.imp (fun retained => retained.kept) fun retained =>
        retained.2.kept)
    | BETWEEN =>
      refine .advance more fun s₁ here₁ inside₁ => ?_
      refine (retentive.expressionAbove _ s₁ (by omega) inside₁).bind (by omega)
        fun low s₂ _ inside₂ => ?_
      refine .same (expected_gives formed inside₂) fun _ s₃ _ inside₃ _ => ?_
      refine (retentive.expressionAbove _ s₃ (by omega) inside₃).bind (by omega)
        fun high s₄ _ inside₄ => ?_
      refine .span fun span _ => .pure inside₄ fun _ _ read => .of_children ?_ rfl
      simp only [Expr.children, retainedIn_append]
      exact read.imp (Or.imp (fun retained => retained.kept) fun retained => retained.2.kept)
        fun retained => retained.2.kept
    | IS =>
      refine .advance more fun s₁ here₁ inside₁ => ?_
      exact isTest_retains formed retentive operand (by omega) (by omega) inside₁
    | _ => exact other _
  | _ => exact other _

theorem nextOperator_retains {operand : Expr} {i : Nat} (operated : operand.Covers input i s.index)
    (above : Precedence) (after : lo ≤ s.index + 1) (inside : s.index < input.tokens.size) :
    Retains input place i (operand.Retained (input.offset place)) s
      (grammar.nextOperator above operand) (halting.nextOperator above operand)
      fun applied => (applied.getD operand).Retained (input.offset place) := by
  have started : i ≤ s.index := Nat.le_of_lt operated.2.nonempty
  have none : Retains input place i (operand.Retained (input.offset place)) s (pure none) (pure none)
      fun applied => (applied.getD operand).Retained (input.offset place) :=
    .pure inside fun _ _ retained => retained
  have other (kind : TokenKind) (found : (input.token s.index).kind = kind) :
      Retains input place i (operand.Retained (input.offset place)) s
        (do
          let precedence := (← dialect).precedence kind
          if precedence = Precedence.none || precedence ≤ above then return Option.none
          else return some (← grammar.applyOperator operand precedence false))
        (do
          let precedence := (← dialect).precedence kind
          if precedence = Precedence.none || precedence ≤ above then return Option.none
          else return some (← halting.applyOperator operand precedence false))
        fun applied => (applied.getD operand).Retained (input.offset place) := by
    refine .look rfl (.ite (fun _ => none) fun binds => ?_)
    have proper : (input.token s.index).kind ≠ .endOfInput := by
      intro last
      rw [← found, last] at binds
      simp [formed.operator] at binds
    refine (applyOperator_retains formed laid retentive operand _ false started
      (formed.more inside rfl proper) after).seq fun e s₁ _ moves => ?_
    exact .pure moves.inside fun _ _ retained _ => retained
  refine .look rfl ?_
  generalize found : (input.token s.index).kind = kind
  cases kind with
  | keyword keyword =>
    cases keyword with
    | NOT =>
      have more := formed.more inside found (by decide)
      refine .look rfl (.ite (fun negated => ?_) fun _ => none)
      have proper : (input.token (s.index + 1)).kind ≠ .endOfInput := by
        intro last
        simp [last] at negated
      have more' := formed.more more rfl proper
      refine .advance more fun s₁ here₁ inside₁ => ?_
      refine (applyOperator_retains formed laid retentive operand _ true (by omega)
        (by omega) (by omega)).seq fun e s₂ _ moves => ?_
      exact .pure moves.inside fun _ _ retained _ => retained
    | _ => exact other _ found
  | symbol symbol =>
    cases symbol with
    | dot =>
      refine .ite (fun _ => ?_) fun _ => none
      refine (fieldAccess_retains formed laid operated (Nat.le_refl _) inside).seq
        fun e s₁ _ moves => ?_
      exact .pure moves.inside fun _ _ retained _ => retained
    | _ => exact other _ found
  | _ => exact other _ found

theorem operators_retains {i : Nat} (above : Precedence) (mark bound : Nat) (operand : Expr)
    (s : ParserState) (marked : mark ≤ s.errors.length)
    (read : s.errors.length ≤ mark → operand.Covers input i s.index)
    (after : lo ≤ s.index + 1) (inside : s.index < input.tokens.size) :
    Retains input place i (operand.Retained (input.offset place)) s
      (grammar.operators above mark bound operand) (halting.operators above mark bound operand)
      (Expr.Retained (input.offset place)) := by
  induction bound generalizing operand s with
  | zero => exact nofun
  | succ bound ih =>
    refine .look rfl (.ite (fun _ => .pure inside fun _ _ retained => retained) fun clean => ?_)
    have operated := read (by simpa using clean)
    refine (nextOperator_retains formed laid retentive operated above after inside).seq
      fun applied s₁ run moves => ?_
    have applies := ((nextOperator_yields formed retentive.sound operated above after
      inside).of_run run).2
    have forward := moves.forward
    cases applied with
    | none => exact .pure moves.inside fun _ _ retained _ => retained
    | some e =>
      refine (ih e s₁ (Nat.le_trans marked moves.noted.length_le) (fun quiet => ?_) (by omega)
        moves.inside).mono id fun _ retained _ => retained
      -- an operator that noted an error ends the loop
      exact (applies (moves.noted.eq_of_length_le (Nat.le_trans quiet marked)).symm).2

/-! ### The operand at which the halting grammar stops -/

def trappedOperand (place : Nat) (halting : Grammar) : Parser Expr := do
  trap place halting.operand
  halting.operand

omit formed laid retentive in
theorem trap_eq (operand : Parser Expr) (s : ParserState) :
    trap place operand input s = some ((), s) ∨ s.index = place ∧
      trap place operand input s = none ∧
        ∃ ref s₁, operand input s = some (.column ref, s₁) := by
  unfold trap
  split
  next here =>
    split
    next ref s₁ read => exact .inr ⟨here, rfl, ref, s₁, read⟩
    next => exact .inl rfl
  next => exact .inl rfl

theorem trappedOperand_retains (after : lo ≤ s.index + 1) (inside : s.index < input.tokens.size) :
    Retains input place s.index False s grammar.operand (trappedOperand place halting)
      (Expr.Retained (input.offset place)) := by
  intro operand s₁ run
  obtain ⟨moves, keeps⟩ := operand_retains formed laid retentive after inside operand s₁ run
  refine ⟨moves, fun quiet differs => ?_⟩
  by_cases same : halting.operand input s = some (operand, s₁)
  · have differs := differs.resolve_left fun impossible => impossible.2.2
    rcases trap_eq halting.operand s with passed | ⟨here, _, ref, _, read⟩
    · rw [trappedOperand, bind_eq passed] at differs
      exact absurd same differs
    · -- both grammars have read the column here
      rw [same] at read
      cases read
      have covers := ((operand_gives formed retentive.sound after inside).of_run run).2 quiet.errors
      have spanned : ref.span = input.cover s.index s₁.index := covers.2.span
      refine ⟨Nat.le_of_eq here, here ▸ covers.2.nonempty, .of_node (.of_column ?_) nofun rfl⟩
      rw [spanned, ← here]
      rfl
  · exact keeps quiet (.inr same)

theorem readExpression_retains (above : Precedence) (after : lo ≤ s.index + 1)
    (inside : s.index < input.tokens.size) :
    Retains input place s.index False s (grammar.readExpression above)
      ((haltAt place halting).expressionAbove above) (Expr.Retained (input.offset place)) := by
  have trapped : Retains input place s.index False s (grammar.readExpression above)
      (do
        let mark ← mark
        let operand ← trappedOperand place halting
        if operand.isMissing then return operand
        halting.operators above mark ((← remaining) + 1) operand)
      (Expr.Retained (input.offset place)) := by
    refine .look rfl ((trappedOperand_retains formed laid retentive after inside).seq
      fun operand s₁ run moves => ?_)
    have read := ((operand_gives formed retentive.sound after inside).of_run run).2
    have forward := moves.forward
    refine .ite (fun _ => .pure moves.inside fun _ _ retained _ => retained) fun _ => .look rfl ?_
    refine (operators_retains formed laid retentive above _ _ operand s₁ moves.noted.length_le
      (fun quiet => ?_) (by omega) moves.inside).mono id fun _ retained _ => retained
    exact read (moves.noted.eq_of_length_le quiet).symm
  -- the trap leaves the state as it is, so it may as well stand before the operand
  have same : (haltAt place halting).expressionAbove above input s =
      (do
        let mark ← mark
        let operand ← trappedOperand place halting
        if operand.isMissing then return operand
        halting.operators above mark ((← remaining) + 1) operand : Parser Expr) input s := by
    rcases trap_eq halting.operand s with passed | ⟨_, halted, _⟩
    · have operands : trappedOperand place halting input s = halting.operand input s :=
        bind_eq passed
      exact (bind_eq passed).trans (bind_congr operands.symm)
    · exact (bind_eq_none halted).trans (bind_eq_none (bind_eq_none halted)).symm
  intro e s' run
  rw [same]
  exact trapped e s' run

end Grammar

end QueryLint
