import QueryLint.Proofs.Parser.Scripts

/-!
The loops of the parser. A round of a loop ends the loop or says from what the next round goes on, and
every loop is the iteration of its round. Where another round follows, the round before it has read a
token; so the tokens ahead bound the number of rounds, and with any larger bound a loop answers, always
the same.
-/

namespace QueryLint

namespace Parser

variable {σ α β : Type} {input : ParserInput} {s : ParserState}

/-! ### Rounds -/

/-- How a round of a loop ends. -/
inductive RoundResult (σ α : Type) where
  /-- The loop ends with an answer. -/
  | done (answer : α)
  /-- Another round goes on from `next`, and what the loop then answers is completed. -/
  | again (next : σ) (complete : α → α)

def RoundResult.goesOn : RoundResult σ α → Bool
  | .done _ => false
  | .again _ _ => true

def iterate (round : σ → Parser (RoundResult σ α)) : Nat → σ → Parser α
  | 0, _ => exhausted
  | bound + 1, x => do
    match ← round x with
    | .done answer => return answer
    | .again next complete => return complete (← iterate round bound next)

/-- Each round answers, and it has read a token if another one follows. -/
def Advances (input : ParserInput) (round : σ → Parser (RoundResult σ α)) : Prop :=
  ∀ (s : ParserState) (x : σ), s.index < input.tokens.size →
    Yields input s (round x) fun outcome s' => outcome.goesOn → s.index < s'.index

/-- A loop iterates a round that reads a token whenever another round follows. The tokens ahead bound
the number of rounds: with any larger bound it answers, and always the same. -/
structure Halts (input : ParserInput) (loop : Nat → σ → Parser α) : Prop where
  rounds : ∃ round : σ → Parser (RoundResult σ α),
    (∀ bound x, loop bound x = iterate round bound x) ∧ Advances input round
  answers (s : ParserState) (x : σ) (inside : s.index < input.tokens.size) :
    ∃ a s', s.Moves input s' ∧
      ∀ bound, input.tokens.size - s.index < bound → loop bound x input s = some (a, s')

theorem Advances.answers {round : σ → Parser (RoundResult σ α)} (advances : Advances input round)
    (s : ParserState) (x : σ) (inside : s.index < input.tokens.size) :
    ∃ a s', s.Moves input s' ∧
      ∀ bound, input.tokens.size - s.index < bound → iterate round bound x input s = some (a, s') := by
  -- the induction is on the tokens ahead, of which every round but the last reads one
  induction ahead : input.tokens.size - s.index using Nat.strongRecOn generalizing s x with
  | _ n ih =>
    obtain ⟨outcome, s', run, moves, taken⟩ := advances s x inside
    cases outcome with
    | done a =>
      refine ⟨a, s', moves, fun bound enough => ?_⟩
      obtain ⟨bound, rfl⟩ := Nat.exists_eq_add_one.2 (Nat.zero_lt_of_lt enough)
      rw [iterate, bind_eq run]
      rfl
    | again next complete =>
      have taken : s.index < s'.index := taken rfl
      obtain ⟨a, s'', moves', rest⟩ := ih _ (by omega) s' next moves.inside rfl
      refine ⟨complete a, s'', moves.trans moves', fun bound enough => ?_⟩
      obtain ⟨bound, rfl⟩ := Nat.exists_eq_add_one.2 (Nat.zero_lt_of_lt enough)
      rw [iterate, bind_eq run]
      exact bind_eq (rest bound (by omega))

theorem Halts.of_rounds {loop : Nat → σ → Parser α} (round : σ → Parser (RoundResult σ α))
    (iterates : ∀ bound x, loop bound x = iterate round bound x)
    (advances : Advances input round) : Halts input loop where
  rounds := ⟨round, iterates, advances⟩
  answers s x inside := by
    simp only [iterates]
    exact advances.answers s x inside

/-! ### Parsers that answer -/

def Answers (input : ParserInput) (s : ParserState) (p : Parser α) : Prop :=
  Yields input s p fun _ _ => True

theorem Yields.answers {p : Parser α} {Q : α → ParserState → Prop} (yields : Yields input s p Q) :
    Answers input s p :=
  yields.mono fun _ _ _ _ => trivial

theorem Yields.pure {a : α} {Q : α → ParserState → Prop} (inside : s.index < input.tokens.size)
    (holds : Q a s) : Yields input s (Pure.pure a) Q :=
  ⟨a, s, rfl, .refl inside, holds⟩

theorem Answers.pure {a : α} (inside : s.index < input.tokens.size) :
    Answers input s (Pure.pure a) :=
  Yields.pure inside trivial

theorem Answers.bind {p : Parser α} {f : α → Parser β} {Q : α → ParserState → Prop}
    (first : Yields input s p Q)
    (rest : ∀ a s', s.index ≤ s'.index → s'.index < input.tokens.size → Answers input s' (f a)) :
    Answers input s (p >>= f) :=
  Yields.bind first fun a s' moves _ => rest a s' moves.forward moves.inside

theorem Answers.look {p : Parser α} {f : α → Parser β} {a : α} (looked : p input s = some (a, s))
    (rest : Answers input s (f a)) : Answers input s (p >>= f) :=
  Yields.look looked rest

theorem Yields.advance {f : Unit → Parser β} (more : s.index + 1 < input.tokens.size)
    (rest : Answers input s.next (f ())) :
    Yields input s (Parser.advance >>= f) fun _ s' => s.index < s'.index :=
  .step (advance_eq more) (rest.mono fun _ _ moves _ => moves.forward)

/-! ### Sequences of parsers -/

theorem ite_bind {c : Prop} [Decidable c] (p q : Parser α) (f : α → Parser β) :
    (if c then p else q) >>= f = if c then p >>= f else q >>= f := by
  split <;> rfl

/-! ### Lists -/

def repeatedRound (step : Parser (Option α)) (_ : Unit) : Parser (RoundResult Unit (List α)) := do
  match ← step with
  | some a => return .again () (a :: ·)
  | none => return .done []

theorem repeated_eq (step : Parser (Option α)) (bound : Nat) :
    repeated step bound = iterate (repeatedRound step) bound () := by
  induction bound with
  | zero => rfl
  | succ bound ih =>
    rw [repeated, iterate, repeatedRound, bind_assoc, ih]
    refine congrArg (step >>= ·) (funext fun found => ?_)
    cases found <;> rfl

theorem halts_repeated {step : Parser (Option α)}
    (takes : ∀ s : ParserState, s.index < input.tokens.size →
      Yields input s step fun found s' => found.isSome → s.index < s'.index) :
    Halts input fun bound (_ : Unit) => repeated step bound := by
  refine .of_rounds (repeatedRound step) (fun bound _ => repeated_eq step bound) fun s _ inside => ?_
  refine (takes s inside).bind fun found s' moves taken => ?_
  cases found with
  | none => exact .pure moves.inside nofun
  | some a => exact .pure moves.inside fun _ => taken rfl

def chainRound (step : Parser (α × Bool)) (_ : Unit) : Parser (RoundResult Unit (List α)) := do
  let (a, more) ← step
  if more then return .again () (a :: ·) else return .done [a]

theorem chain_eq (step : Parser (α × Bool)) (bound : Nat) :
    chain step bound = iterate (chainRound step) bound () := by
  induction bound with
  | zero => rfl
  | succ bound ih =>
    rw [chain, iterate, chainRound, bind_assoc, ih]
    refine congrArg (step >>= ·) ?_
    funext element
    obtain ⟨a, more⟩ := element
    cases more <;> rfl

theorem halts_chain {step : Parser (α × Bool)}
    (takes : ∀ s : ParserState, s.index < input.tokens.size →
      Yields input s step fun found s' => found.2 = true → s.index < s'.index) :
    Halts input fun bound (_ : Unit) => chain step bound := by
  refine .of_rounds (chainRound step) (fun bound _ => chain_eq step bound) fun s _ inside => ?_
  refine (takes s inside).bind fun (a, more) s' moves taken => ?_
  cases more with
  | false => exact .pure moves.inside nofun
  | true => exact .pure moves.inside fun _ => taken rfl

theorem halts_commaSeparated (formed : input.WellFormed) {element : Parser α} (mark : Nat)
    (answers : ∀ s : ParserState, s.index < input.tokens.size → Answers input s element) :
    Halts input fun bound (_ : Unit) => chain (do
      let a ← element
      if ← failedSince mark then return (a, false)
      return (a, ← accept Symbol.comma)) bound := by
  refine halts_chain fun s inside => Yields.bind (answers s inside) fun a s' moves _ => .look rfl ?_
  split
  · exact .pure moves.inside nofun
  · refine .accept formed moves.inside (fun _ more => ?_) fun _ => .pure moves.inside nofun
    exact ⟨(a, true), s'.next, rfl, .refl more, fun _ => Nat.lt_succ_of_le moves.forward⟩

/-! ### Names and types -/

def pathRound (_ : Unit) : Parser (RoundResult Unit (List PathSegment)) := do
  let token ← current
  advance
  let dotted ← check Symbol.dot
  if dotted && (← lookahead).isWord then
    advance
    return .again () (PathSegment.ofToken token ++ ·)
  else return .done (PathSegment.ofToken token)

theorem pathWithin_eq (bound : Nat) : pathWithin bound = iterate pathRound bound () := by
  induction bound with
  | zero => rfl
  | succ bound ih =>
    simp only [pathWithin, iterate, pathRound, bind_assoc, ite_bind, pure_bind, ih]

theorem halts_path (formed : input.WellFormed) :
    Halts input fun bound (_ : Unit) => pathWithin bound := by
  refine .of_rounds pathRound (fun bound _ => pathWithin_eq bound) fun s _ inside => .look rfl ?_
  refine (advance_yields inside).bind fun _ s₁ moves₁ _ => .look rfl (.look rfl ?_)
  split
  next dotted =>
    simp only [Bool.and_eq_true, beq_iff_eq] at dotted
    have more := formed.more moves₁.inside dotted.1 (by decide)
    exact .step (advance_eq more) (.pure more fun _ => Nat.lt_succ_of_le moves₁.forward)
  next => exact .pure moves₁.inside nofun

def typeArgumentsRound (opened : Int × Bool) : Parser (RoundResult (Int × Bool) String) := do
  let token ← current
  if token.kind = .endOfInput then
    unexpected Symbol.greater.text
    return .done ""
  let (text, depth, isWord) := copyTypeToken token opened.1 opened.2
  advance
  if 0 < depth then return .again (depth, isWord) (text ++ ·)
  when (depth < 0) (fault .unbalancedType)
  return .done text

theorem typeArguments_eq (bound : Nat) (opened : Int × Bool) :
    typeArguments bound opened.1 opened.2 = iterate typeArgumentsRound bound opened := by
  induction bound generalizing opened with
  | zero => rfl
  | succ bound ih =>
    simp only [typeArguments, iterate, typeArgumentsRound, bind_assoc, ite_bind, pure_bind, ← ih]

theorem halts_typeArguments (formed : input.WellFormed) :
    Halts input fun bound (opened : Int × Bool) => typeArguments bound opened.1 opened.2 := by
  refine .of_rounds typeArgumentsRound typeArguments_eq fun s opened inside => .look rfl ?_
  split
  next =>
    exact Yields.bind (unexpected_gives inside _) fun _ _ moves _ => .pure moves.inside nofun
  next proper =>
    have more := formed.more inside rfl proper
    generalize copyTypeToken (input.token s.index) opened.1 opened.2 = copied
    obtain ⟨text, depth, isWord⟩ := copied
    refine .step (advance_eq more) ?_
    split
    · exact .pure more fun _ => Nat.lt_succ_self _
    · exact Yields.bind ((fault_gives more _).when more _) fun _ _ moves _ =>
        .pure moves.inside nofun

def typeParametersRound (_ : Unit) : Parser (RoundResult Unit String) := do
  let token ← current
  if token.kind = .symbol .rightParen || token.kind = .endOfInput then return .done ""
  advance
  let text := if token.kind = .symbol .comma then ", " else token.text
  return .again () (text ++ ·)

theorem typeParameters_eq (bound : Nat) :
    typeParameters bound = iterate typeParametersRound bound () := by
  induction bound with
  | zero => rfl
  | succ bound ih =>
    simp only [typeParameters, iterate, typeParametersRound, bind_assoc, ite_bind, pure_bind, ih]

theorem halts_typeParameters (formed : input.WellFormed) :
    Halts input fun bound (_ : Unit) => typeParameters bound := by
  refine .of_rounds typeParametersRound (fun bound _ => typeParameters_eq bound)
    fun s _ inside => .look rfl ?_
  split
  next => exact .pure inside nofun
  next proper =>
    simp only [Bool.or_eq_true, decide_eq_true_eq, not_or] at proper
    have more := formed.more inside rfl proper.2
    exact .step (advance_eq more) (.pure more fun _ => Nat.lt_succ_self _)

end Parser

/-! ### Readers that stop -/

namespace Attempt

open QueryLint.Parser

variable {α : Type} {input : ParserInput}

def commaSeparatedRound (element : Attempt α) (_ : Unit) :
    Parser (RoundResult Unit (Except SyntaxError (List α))) := do
  match ← element.run with
  | .ok a =>
    if ← accept Symbol.comma then return .again () (Except.map (a :: ·))
    else return .done (.ok [a])
  | .error error => return .done (.error error)

theorem commaSeparatedWithin_eq (element : Attempt α) (bound : Nat) :
    (commaSeparatedWithin element bound).run = iterate (commaSeparatedRound element) bound () := by
  induction bound with
  | zero => rfl
  | succ bound ih =>
    rw [iterate, commaSeparatedRound, bind_assoc]
    refine congrArg (element.run >>= ·) (funext fun result => ?_)
    cases result with
    | error error => rfl
    | ok a =>
      refine (run_lift_bind _ _).trans ?_
      rw [bind_assoc]
      refine congrArg (accept Symbol.comma >>= ·) (funext fun more => ?_)
      cases more with
      | false => rfl
      | true =>
        change (commaSeparatedWithin element bound).run >>= _ = iterate _ bound () >>= _
        rw [ih]
        refine congrArg (iterate _ bound () >>= ·) (funext fun others => ?_)
        cases others <;> rfl

theorem halts_commaSeparatedWithin (formed : input.WellFormed) {element : Attempt α}
    (answers : ∀ s : ParserState, s.index < input.tokens.size → Answers input s element.run) :
    Halts input fun bound (_ : Unit) => (commaSeparatedWithin element bound).run := by
  refine .of_rounds (commaSeparatedRound element) (fun bound _ => commaSeparatedWithin_eq element bound)
    fun s _ inside => Yields.bind (answers s inside) fun result s₁ moves₁ _ => ?_
  cases result with
  | error error => exact .pure moves₁.inside nofun
  | ok a =>
    refine .accept formed moves₁.inside (fun _ more => ?_) fun _ => .pure moves₁.inside nofun
    exact .pure more fun _ => Nat.lt_succ_of_le moves₁.forward

end Attempt

/-! ### Operators -/

namespace Grammar

open QueryLint.Parser

variable {input : ParserInput} (formed : input.WellFormed) {grammar : Grammar}
  (sound : grammar.Sound input 0) {s : ParserState} (operand : Expr)

include formed sound

theorem continuing_answers (form : ContinuingForm) (inside : s.index < input.tokens.size) :
    Attempt.Gives input s (grammar.continuing operand form) fun _ _ => True := by
  cases form
  refine (Attempt.within_gives (tryExpression_gives sound (Nat.zero_le _) inside) _).bind
    fun place s₁ _ inside₁ _ => ?_
  generalize subscriptMode place = accessed
  exact (Attempt.expectWithin_gives formed inside₁).bind fun _ s₂ _ inside₂ _ =>
    .span fun _ _ => .pure inside₂ trivial

theorem membership_answers (negated : Bool) (inside : s.index < input.tokens.size) :
    Answers input s (grammar.membership operand negated) := by
  refine .look rfl (.look rfl ?_)
  split
  · refine .bind (advance_yields inside) fun _ s₁ _ inside₁ => ?_
    refine .bind (advance_yields inside₁) fun _ s₂ _ inside₂ => ?_
    refine .bind (sound.expression (Nat.zero_le _) inside₂) fun _ s₃ _ inside₃ => ?_
    exact .bind (expected_gives formed inside₃) fun _ _ _ inside₄ => .look rfl (.pure inside₄)
  · refine .bind (expect_gives formed inside) fun found s₁ _ inside₁ => ?_
    split
    · exact .pure inside₁
    · refine .look rfl (.look rfl ?_)
      split
      · refine .bind (sound.query s₁ (Nat.zero_le _) inside₁) fun _ s₂ _ inside₂ => ?_
        exact .bind (expected_gives formed inside₂) fun _ _ _ inside₃ => .look rfl (.pure inside₃)
      · refine .bind (expressions_gives formed sound (Nat.zero_le _) inside₁)
          fun _ s₂ _ inside₂ => ?_
        exact .bind (expected_gives formed inside₂) fun _ _ _ inside₃ => .look rfl (.pure inside₃)

theorem isTest_answers (inside : s.index < input.tokens.size) :
    Answers input s (grammar.isTest operand) := by
  refine .bind (accept_yields inside _) fun negated s₁ _ inside₁ => .look rfl ?_
  have tested (e : Span → Expr) : Answers input s₁ (do
      advance
      return e (← spanFrom operand.span.start)) :=
    .bind (advance_yields inside₁) fun _ _ _ inside₂ => .look rfl (.pure inside₂)
  split
  · exact tested _
  · exact tested _
  · exact tested _
  · refine .bind (advance_yields inside₁) fun _ s₂ _ inside₂ => ?_
    refine .bind (expected_gives formed inside₂) fun _ s₃ _ inside₃ => ?_
    refine .bind (sound.expressionAbove _ s₃ (Nat.zero_le _) inside₃) fun _ _ _ inside₄ => ?_
    exact .look rfl (.pure inside₄)
  · exact .bind (unexpected_gives inside₁ _) fun _ _ _ inside₂ => .pure inside₂

omit sound in
theorem fieldAccess_advances (more : s.index + 1 < input.tokens.size) :
    Yields input s (fieldAccess operand) fun _ s' => s.index < s'.index := by
  refine .advance more (.bind (accept_yields more _) fun star s₁ _ inside₁ => ?_)
  split
  · exact .look rfl (.pure inside₁)
  · refine .bind (Attempt.orNote_gives (identifier_gives formed inside₁)) fun name s₂ _ inside₂ => ?_
    cases name with
    | none => exact .pure inside₂
    | some name => exact .look rfl (.pure inside₂)

theorem applyOperator_advances (precedence : Precedence) (negated : Bool)
    (more : s.index + 1 < input.tokens.size) :
    Yields input s (grammar.applyOperator operand precedence negated) fun _ s' =>
      s.index < s'.index := by
  refine .look rfl ?_
  split
  · exact .advance more (membership_answers formed sound operand negated more)
  · refine .advance more (.bind (sound.expressionAbove _ _ (Nat.zero_le _) more)
      fun _ _ _ inside₁ => .look rfl (.pure inside₁))
  · refine .advance more (.bind (sound.expressionAbove _ _ (Nat.zero_le _) more)
      fun _ s₁ _ inside₁ => ?_)
    refine .bind (expected_gives formed inside₁) fun _ s₂ _ inside₂ => ?_
    refine .bind (sound.expressionAbove _ _ (Nat.zero_le _) inside₂) fun _ _ _ inside₃ => ?_
    exact .look rfl (.pure inside₃)
  · exact .advance more (isTest_answers formed sound operand more)
  · refine .look rfl ?_
    split
    next form _ =>
      exact .advance more (.bind (Attempt.orNote_gives (continuing_answers formed sound operand form
        more)) fun _ _ _ inside₁ => .pure inside₁)
    next =>
      refine .advance more (.bind (sound.expressionAbove _ _ (Nat.zero_le _) more)
        fun right s₁ _ inside₁ => ?_)
      split
      · exact .pure inside₁
      · exact .look rfl (.pure inside₁)

theorem nextOperator_advances (above : Precedence) (inside : s.index < input.tokens.size) :
    Yields input s (grammar.nextOperator above operand) fun applied s' =>
      applied.isSome → s.index < s'.index := by
  have applied {p : Parser Expr} (advances : Yields input s p fun _ s' => s.index < s'.index) :
      Yields input s (do return some (← p)) fun applied s' => applied.isSome → s.index < s'.index :=
    advances.bind fun _ _ moves taken => .pure moves.inside fun _ => taken
  have none : Yields input s (pure none) fun (applied : Option Expr) s' =>
      applied.isSome → s.index < s'.index := .pure inside nofun
  refine .look rfl ?_
  split
  next found =>
    have more := formed.more inside found (by decide)
    refine .look rfl ?_
    dsimp only
    split
    next negated =>
      have proper : (input.token (s.index + 1)).kind ≠ .endOfInput := by
        intro last
        simp [last] at negated
      refine .step (advance_eq more) (Yields.bind (applyOperator_advances formed sound operand _ true
        (s := s.next) (formed.more more rfl proper)) fun _ s' moves taken => ?_)
      exact .pure moves.inside fun _ => Nat.lt_of_succ_lt taken
    · exact none
  next dotted =>
    split
    · exact applied (fieldAccess_advances formed operand (formed.more inside dotted (by decide)))
    · exact none
  next =>
    refine .look rfl ?_
    dsimp only
    split
    · exact none
    next binds =>
      have proper : (input.token s.index).kind ≠ .endOfInput := by
        intro last
        simp [last, formed.operator] at binds
      exact applied (applyOperator_advances formed sound operand _ false
        (formed.more inside rfl proper))

omit formed sound operand

/-! ### Loops over operators, names and sources -/

def operatorsRound (grammar : Grammar) (above : Precedence) (mark : Nat) (operand : Expr) :
    Parser (RoundResult Expr Expr) := do
  if ← failedSince mark then return .done operand
  match ← grammar.nextOperator above operand with
  | some applied => return .again applied id
  | none => return .done operand

theorem operators_eq (above : Precedence) (mark bound : Nat) (operand : Expr) :
    grammar.operators above mark bound operand =
      iterate (grammar.operatorsRound above mark) bound operand := by
  induction bound generalizing operand with
  | zero => rfl
  | succ bound ih =>
    rw [operators, iterate, operatorsRound, bind_assoc]
    refine congrArg (failedSince mark >>= ·) (funext fun failed => ?_)
    cases failed with
    | true => rfl
    | false =>
      refine Eq.trans (congrArg (grammar.nextOperator above operand >>= ·) (funext fun applied => ?_))
        (bind_assoc _ _ _).symm
      cases applied with
      | none => rfl
      | some applied => exact (ih applied).trans (bind_pure _).symm

include formed sound in
theorem halts_operators (above : Precedence) (mark : Nat) :
    Halts input fun bound (operand : Expr) => grammar.operators above mark bound operand := by
  refine .of_rounds (grammar.operatorsRound above mark) (operators_eq above mark)
    fun s operand inside => .look rfl ?_
  split
  · exact .pure inside nofun
  · refine (nextOperator_advances formed sound operand above inside).bind
      fun applied s₁ moves₁ taken => ?_
    cases applied with
    | none => exact .pure moves₁.inside nofun
    | some applied => exact .pure moves₁.inside fun _ => taken rfl

def dashedRound (segment : PathSegment) : Parser (RoundResult PathSegment PathSegment) := do
  let dash ← current
  let next ← lookahead
  if dash.kind == Symbol.minus && dash.span.start.offset == segment.span.stop.offset &&
      next.span.start.offset == dash.span.stop.offset &&
      (next.kind == .identifier || next.kind == .number) then
    advance
    advance
    return .again { segment with
      name := segment.name ++ "-" ++ next.text
      span := { segment.span with stop := next.span.stop } } id
  else return .done segment

theorem dashed_eq (bound : Nat) (segment : PathSegment) :
    dashed bound segment = iterate dashedRound bound segment := by
  induction bound generalizing segment with
  | zero => rfl
  | succ bound ih =>
    simp only [dashed, iterate, dashedRound, bind_assoc, ite_bind, pure_bind, ih]
    simp only [id, bind_pure]

include formed in
theorem halts_dashed :
    Halts input fun bound (segment : PathSegment) => dashed bound segment := by
  refine .of_rounds dashedRound dashed_eq fun s segment inside => .look rfl (.look rfl ?_)
  split
  next dash =>
    simp only [Bool.and_eq_true, beq_iff_eq] at dash
    have more := formed.more inside dash.1.1.1 (by decide)
    exact .step (advance_eq more) ((advance_yields more).bind fun _ _ moves _ =>
      .pure moves.inside fun _ => moves.forward)
  next => exact .pure inside nofun

def sourceFormsRound (grammar : Grammar) (source : TableRef) :
    Parser (RoundResult TableRef TableRef) := do
  match (← dialect).sourceForm? (← current).kind with
  | none => return .done source
  | some form =>
    advance
    match ← (grammar.sourceForm source form).orNote with
    | some applied => return .again applied id
    | none => return .done source

theorem sourceForms_eq (bound : Nat) (source : TableRef) :
    grammar.sourceForms bound source = iterate grammar.sourceFormsRound bound source := by
  induction bound generalizing source with
  | zero => rfl
  | succ bound ih =>
    rw [sourceForms, iterate, sourceFormsRound, bind_assoc]
    refine congrArg (dialect >>= ·) (funext fun dialect => ?_)
    rw [bind_assoc]
    refine congrArg (current >>= ·) (funext fun token => ?_)
    cases dialect.sourceForm? token.kind with
    | none => rfl
    | some form =>
      rw [bind_assoc]
      refine congrArg (advance >>= ·) (funext fun _ => ?_)
      refine Eq.trans (congrArg ((grammar.sourceForm source form).orNote >>= ·)
        (funext fun applied => ?_)) (bind_assoc _ _ _).symm
      cases applied with
      | none => rfl
      | some applied => exact (ih applied).trans (bind_pure _).symm

include formed sound

theorem halts_sourceForms :
    Halts input fun bound (source : TableRef) => grammar.sourceForms bound source := by
  refine .of_rounds grammar.sourceFormsRound sourceForms_eq
    fun s source inside => .look rfl (.look rfl ?_)
  split
  next => exact .pure inside nofun
  next form found =>
    have more : s.index + 1 < input.tokens.size := by
      refine formed.more inside rfl fun last => ?_
      rw [last, formed.source] at found
      cases found
    refine .step (advance_eq more) (Yields.bind (Attempt.orNote_gives
      (sourceForm_gives (i := 0) (j := 0) formed sound (by simp) form
        (Nat.zero_le _) more)) fun applied s₁ moves₁ _ => ?_)
    cases applied with
    | none => exact .pure moves₁.inside nofun
    | some applied => exact .pure moves₁.inside fun _ => moves₁.forward

/-! ### Loops over lists -/

omit formed sound in
def WordsAdvance (input : ParserInput) : Prop :=
  ∀ (word : String) (words : List String) (s : ParserState), s.index < input.tokens.size →
    (∃ s', s.index < s'.index ∧ s'.index < input.tokens.size ∧
      fixedWords (word :: words) input s = fixedWords words input s') ∨
    ∃ s', s.Moves input s' ∧ s.errors.length < s'.errors.length ∧
      fixedWords (word :: words) input s = some (false, s')

omit sound in
theorem wordsAdvance : WordsAdvance input := by
  intro word words s inside
  have checked : checkWord word input s = some ((input.token s.index).kind == .identifier &&
      (input.token s.index).spells word, s) := rfl
  rw [fixedWords, bind_eq checked]
  split
  next spelled =>
    have more := checkWord_more formed inside spelled
    exact .inl ⟨s.next, Nat.lt_succ_self _, more, bind_eq (advance_eq more)⟩
  next =>
    obtain ⟨_, s', run, moves, noted⟩ := unexpected_gives inside word
    refine .inr ⟨s', moves, Nat.lt_of_not_le fun short => noted ?_, bind_eq run⟩
    exact (moves.noted.eq_of_length_le short).symm

theorem clause_advances (unclaimed : input.dialect.clause? .endOfInput = none) (mark : Nat)
    (block : SelectBlock) {kind : TokenKind} (found : (input.token s.index).kind = kind)
    (inside : s.index < input.tokens.size) :
    Yields input s (grammar.clause mark block kind) fun result s' =>
      result.isSome → s.index < s'.index := by
  refine .look rfl ?_
  split
  next form slot _ _ claimed =>
    have more : s.index + 1 < input.tokens.size := by
      refine formed.more inside found fun last => ?_
      rw [last, unclaimed] at claimed
      cases claimed
    refine .look rfl (.mono (.advance more ?_) fun _ _ _ taken _ => taken)
    refine .bind (clauseContent_gives formed sound form (Nat.zero_le _) more)
      fun result s₁ _ inside₁ => ?_
    cases result with
    | ok content => exact .pure inside₁
    | error error =>
      exact .look rfl (.bind ((addError_gives inside₁ error).when inside₁ _)
        fun _ _ _ inside₂ => .pure inside₂)
  next => exact Yields.bind (fault_gives inside _) fun _ _ moves _ => .pure moves.inside nofun

omit formed sound in
/-- Clauses are read rule by rule. A rule whose keyword is not there is passed over on the spot; a
clause that is read has taken its keyword, and one that is not has noted an error and ends the loop. -/
def ClausesAdvance (input : ParserInput) (grammar : Grammar) : Prop :=
  ∀ (mark : Nat) (rule : ClauseRule) (rules : List ClauseRule) (block : SelectBlock)
    (s : ParserState), s.errors.length ≤ mark → s.index < input.tokens.size →
    ((input.token s.index).kind ≠ rule.kind ∧
      grammar.clausesFrom mark (rule :: rules) block input s =
        grammar.clausesFrom mark rules block input s) ∨
    (∃ block' s', s.index < s'.index ∧ s'.index < input.tokens.size ∧ s'.errors = s.errors ∧
      grammar.clausesFrom mark (rule :: rules) block input s =
        grammar.clausesFrom mark rules block' input s') ∨
    ∃ s', s.Moves input s' ∧ s.errors.length < s'.errors.length ∧
      grammar.clausesFrom mark (rule :: rules) block input s = some (block, s')

theorem clausesAdvance (unclaimed : input.dialect.clause? .endOfInput = none) :
    ClausesAdvance input grammar := by
  intro mark rule rules block s quiet inside
  by_cases found : (input.token s.index).kind = rule.kind
  · have checked : check rule.kind input s = some (true, s) := by
      rw [check_eq, beq_iff_eq.2 found]
    obtain ⟨result, s', run, moves, taken⟩ :=
      clause_advances formed sound unclaimed mark block found inside
    obtain ⟨_, read⟩ := (clause_yields (i := s.index) formed sound mark block rule.kind quiet
      (Nat.le_refl _) (Nat.zero_le _) inside).of_run run
    rw [clausesFrom, bind_eq checked, if_pos rfl, bind_eq run]
    cases result with
    | some block' => exact .inr (.inl ⟨block', s', taken rfl, moves.inside, read.1, rfl⟩)
    | none =>
      refine .inr (.inr ⟨s', moves, Nat.lt_of_not_le fun short => read ?_, rfl⟩)
      exact (moves.noted.eq_of_length_le short).symm
  · have checked : check rule.kind input s = some (false, s) := by
      rw [check_eq, beq_eq_false_iff_ne.2 found]
    refine .inl ⟨found, ?_⟩
    rw [clausesFrom, bind_eq checked, if_neg Bool.false_ne_true]

/-! ### All loops -/

omit formed sound in
/-- The loops of the parser, as they stand in the productions: each halts, and each iteration over a
list takes a token, ends, or passes over an element. -/
structure LoopsHalt (input : ParserInput) (grammar : Grammar) : Prop where
  semicolons : Halts input fun bound (_ : Unit) => repeated (do
    if ← accept Symbol.semicolon then return some () else return none) bound
  statements : Halts input fun bound (_ : Unit) => repeated (nextStatement grammar) bound
  path : Halts input fun bound (_ : Unit) => pathWithin bound
  typeArguments : Halts input fun bound (opened : Int × Bool) =>
    typeArguments bound opened.1 opened.2
  typeParameters : Halts input fun bound (_ : Unit) => typeParameters bound
  tupleFields : Halts input fun bound (_ : Unit) => repeated grammar.tupleField bound
  operators (above : Precedence) (mark : Nat) :
    Halts input fun bound (operand : Expr) => grammar.operators above mark bound operand
  dashes : Halts input fun bound (segment : PathSegment) => dashed bound segment
  sourceForms : Halts input fun bound (source : TableRef) => grammar.sourceForms bound source
  joins (mark : Nat) : Halts input fun bound (_ : Unit) => repeated (do
    if ← failedSince mark then return none
    grammar.join) bound
  callArguments : Halts input fun bound (_ : Unit) => chain grammar.callArgument bound
  caseBranches : Halts input fun bound (_ : Unit) => repeated grammar.caseBranch bound
  starModifiers : Halts input fun bound (_ : Unit) => repeated grammar.nextStarModifier bound
  selectItems (mark : Nat) : Halts input fun bound (_ : Unit) => chain (do
    let item ← grammar.selectItem
    if ← failedSince mark then return (item, false)
    if ← accept Symbol.comma then return (item, !(← check Keyword.FROM))
    else return (item, false)) bound
  expressions (mark : Nat) : Halts input fun bound (_ : Unit) => chain (do
    let e ← grammar.expression
    if ← failedSince mark then return (e, false)
    return (e, ← accept Symbol.comma)) bound
  orderItems (mark : Nat) : Halts input fun bound (_ : Unit) => chain (do
    let item ← grammar.orderItem
    if ← failedSince mark then return (item, false)
    return (item, ← accept Symbol.comma)) bound
  definitions (mark : Nat) : Halts input fun bound (_ : Unit) => chain (do
    let cte ← grammar.cte
    if ← failedSince mark then return (cte, false)
    return (cte, ← accept Symbol.comma)) bound
  lists {α : Type} (element : Attempt α)
    (answers : ∀ s : ParserState, s.index < input.tokens.size → Answers input s element.run) :
    Halts input fun bound (_ : Unit) => (Attempt.commaSeparatedWithin element bound).run
  words : WordsAdvance input
  clauses : ClausesAdvance input grammar

theorem loopsHalt (unclaimed : input.dialect.clause? .endOfInput = none) :
    LoopsHalt input grammar where
  semicolons := halts_repeated fun _ inside =>
    .accept formed inside (fun _ more => .pure more fun _ => Nat.lt_succ_self _)
      fun _ => .pure inside nofun
  statements := halts_repeated fun _ inside =>
    (nextStatement_yields formed sound inside).mono fun _ _ _ read => read.1
  path := halts_path formed
  typeArguments := halts_typeArguments formed
  typeParameters := halts_typeParameters formed
  tupleFields := halts_repeated fun _ inside =>
    (tupleField_takes formed sound (Nat.zero_le _) inside).mono fun _ _ _ read => read.1
  operators := halts_operators formed sound
  dashes := halts_dashed formed
  sourceForms := halts_sourceForms formed sound
  joins mark := halts_repeated fun _ inside => by
    refine .look rfl ?_
    split
    · exact .pure inside nofun
    · exact (join_takes formed sound (Nat.zero_le _) inside).mono fun _ _ _ read => read.1
  callArguments := halts_chain fun _ inside =>
    (callArgument_takes formed sound (Nat.zero_le _) inside).mono fun _ _ _ read => read.1
  caseBranches := halts_repeated fun _ inside =>
    (caseBranch_takes formed sound (Nat.zero_le _) inside).mono fun _ _ _ read => read.1
  starModifiers := halts_repeated fun _ inside =>
    (nextStarModifier_takes formed sound (Nat.zero_le _) inside).mono fun _ _ _ read => read.1
  selectItems mark := halts_chain fun s inside => by
    refine Yields.bind (selectItem_gives formed sound (Nat.zero_le _) inside)
      fun item s' moves _ => .look rfl ?_
    split
    · exact .pure moves.inside nofun
    · refine .accept formed moves.inside (fun _ more => .look rfl ?_) fun _ => .pure moves.inside nofun
      exact ⟨_, s'.next, rfl, .refl more, fun _ => Nat.lt_succ_of_le moves.forward⟩
  expressions mark := halts_commaSeparated formed mark fun _ inside =>
    Yields.answers (sound.expression (Nat.zero_le _) inside)
  orderItems mark := halts_commaSeparated formed mark fun _ inside =>
    Yields.answers (orderItem_gives formed sound (Nat.zero_le _) inside)
  definitions mark := halts_commaSeparated formed mark fun _ inside =>
    Yields.answers (cte_gives formed sound (Nat.zero_le _) inside)
  lists _ answers := Attempt.halts_commaSeparatedWithin formed answers
  words := wordsAdvance formed
  clauses := clausesAdvance formed sound unclaimed

end Grammar

end QueryLint
