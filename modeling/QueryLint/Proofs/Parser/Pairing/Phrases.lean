import QueryLint.Parser.Window
import QueryLint.Proofs.Parser.Pairing.Basic

/-!
Names, types and windows pair their parentheses. The arguments of a type are copied up to the bracket
that closes them, its parameters up to the next closing parenthesis, and both without a look at what is
copied.
-/

namespace QueryLint

open QueryLint.Parser

variable {input : ParserInput} {s : ParserState}

namespace Parser

/-! ### Names -/

theorem pathWithin_pairs (step : ∀ depth, input.Step (s.index, depth) (input.following s.index, depth))
    (bound : Nat) : Pairs input s 0 (pathWithin bound) 0 := by
  induction bound generalizing s with
  | zero => exact .exhausted
  | succ bound ih =>
    refine .look rfl (.pass (fun _ => step) (.look rfl (.look rfl (.ite (fun both => ?_) fun _ => .pure))))
    obtain ⟨dotted, word⟩ := Bool.and_eq_true_iff.1 both
    refine .advance (TokenKind.unpaired_of_eq (beq_iff_eq.1 dotted)) fun s' here => ?_
    refine .bind (ih fun depth => .passes ?_) fun _ _ => .pure
    rw [here, ParserInput.token_following]
    exact Token.unpaired_of_isWord word

theorem path_pairs (step : ∀ depth, input.Step (s.index, depth) (input.following s.index, depth)) :
    Pairs input s 0 path 0 :=
  .look rfl (pathWithin_pairs step _)

theorem aliasName_pairs : Pairs input s 0 aliasName 0 := by
  refine .acceptPlain (fun _ s' _ => .look rfl ?_) fun _ => .look rfl (.ite (fun found => ?_) fun _ => .pure)
  · refine .bind (Attempt.orNote_pairs Attempt.identifier_pairs) fun name s => ?_
    cases name <;> exact .pure
  · exact .advance (TokenKind.unpaired_of_eq (beq_iff_eq.1 found)) fun _ _ => .pure

/-! ### Types -/

theorem copyTypeToken_depth (token : Token) (depth : Int) (afterWord : Bool) :
    (copyTypeToken token depth afterWord).2.1 = token.typeDepth depth := by
  unfold copyTypeToken Token.typeDepth
  split <;> simp_all

theorem typeArguments_pairs {bound : Nat} {depth : Int} {afterWord : Bool}
    (inner : s.Clean → input.TypeArgument s.index depth) :
    Pairs input s 0 (typeArguments bound depth afterWord) 0 := by
  induction bound generalizing s depth afterWord with
  | zero => exact .exhausted
  | succ bound ih =>
    refine .look rfl (.ite (fun _ => .flat) fun _ => ?_)
    have level := copyTypeToken_depth (input.token s.index) depth afterWord
    generalize copyTypeToken (input.token s.index) depth afterWord = copied at level
    obtain ⟨text, deeper, isWord⟩ := copied
    obtain rfl : deeper = _ := level
    refine .pass (fun clean _ => .skips (.argument (inner clean))) (.ite (fun deep => ?_) fun _ => .flat)
    exact .bind (ih fun clean => .next (inner ⟨clean.errors, clean.recovered⟩) deep) fun _ _ => .pure

theorem typeArguments_ends {bound : Nat} {depth : Int} {afterWord : Bool} {text : String}
    {s' : ParserState} (inner : s.Clean → input.TypeArgument s.index depth)
    (run : typeArguments bound depth afterWord input s = some (text, s')) (clean : s'.Clean) :
    input.EndsType s'.index := by
  have cleanly := (typeArguments_pairs inner text s' run clean).1
  induction bound generalizing s depth afterWord text with
  | zero => cases run
  | succ bound ih =>
    rw [typeArguments, bind_eq (rfl : current input s = some (input.token s.index, s))] at run
    split at run
    · obtain ⟨_, _, ⟨⟩, ⟨⟩⟩ := bind_eq_some run
      exact absurd clean.errors (by simp)
    have level := copyTypeToken_depth (input.token s.index) depth afterWord
    generalize copyTypeToken (input.token s.index) depth afterWord = copied at level run
    obtain ⟨copied, deeper, isWord⟩ := copied
    obtain rfl : deeper = _ := level
    obtain ⟨_, t, ⟨⟩, run⟩ := bind_eq_some run
    split at run
    next deep =>
      obtain ⟨_, _, rest, ⟨⟩⟩ := bind_eq_some run
      exact ih (fun _ => .next (inner cleanly) deep) rest ⟨cleanly.errors, cleanly.recovered⟩
    next =>
      obtain ⟨_, u, noted, ⟨⟩⟩ := bind_eq_some run
      unfold when at noted
      split at noted
      · cases noted
        exact absurd clean.errors (by simp)
      · cases noted
        exact .argued (inner cleanly)

theorem typeParameters_pairs {bound : Nat} (inner : s.Clean → input.TypeParameter s.index) :
    Pairs input s 0 (typeParameters bound) 0 := by
  induction bound generalizing s with
  | zero => exact .exhausted
  | succ bound ih =>
    refine .look rfl (.ite (fun _ => .pure) fun more => ?_)
    have other : (input.token s.index).kind ≠ Symbol.rightParen := fun closes => more (by simp [closes])
    refine .pass (fun clean _ => .skips (.parameter (inner clean) other)) ?_
    exact .bind (ih fun clean => .next (inner ⟨clean.errors, clean.recovered⟩) other) fun _ _ => .pure

def typeArguments? (bound : Nat) : Parser String := do
  if ← check Symbol.less then typeArguments bound 0 false else pure ""

/-- A type is read from where one begins; if it has no arguments, it ends behind its name. -/
theorem typeName_pairs (begins : s.Clean → input.BeginsType s.index)
    (named : s.Clean → (input.token s.index).isWord = true →
      (input.token (input.following s.index)).kind ≠ Symbol.less →
        input.EndsType (input.following s.index)) :
    Pairs input s 0 typeName 0 := by
  refine .look rfl (.ite (fun _ => .flat) fun word => ?_)
  have word : (input.token s.index).isWord = true := by simpa using word
  refine .pass (fun _ _ => .passes (Token.unpaired_of_isWord word)) (.look rfl ?_)
  have unmoved {t : ParserState} {i : Nat} (clean : ({ t with index := i } : ParserState).Clean) :
      t.Clean := ⟨clean.errors, clean.recovered⟩
  generalize behind : ({ s with index := input.following s.index } : ParserState) = t
  have cleanly : t.Clean → s.Clean := behind ▸ unmoved
  have here : t.index = input.following s.index := behind ▸ rfl
  have argument (opens : (input.token t.index).kind = Symbol.less) (clean : t.Clean) :
      input.TypeArgument t.index 0 := by
    rw [here] at opens ⊢
    exact .first (begins (cleanly clean)) opens
  dsimp only
  generalize input.tokens.size - t.index + 1 = bound
  have knows (text : String) (u : ParserState)
      (run : typeArguments? bound input t = some (text, u)) (clean : u.Clean) :
      input.EndsType u.index := by
    rw [typeArguments?, bind_eq (check_eq _)] at run
    split at run
    next opens => exact typeArguments_ends (argument (beq_iff_eq.1 opens)) run clean
    next other =>
      cases run
      rw [here] at other ⊢
      exact named (cleanly clean) word (by simpa using other)
  refine PairsIf.bindWith (p := typeArguments? bound) (.check (fun opens => ?_) fun _ => .pure) knows
    fun arguments u ends => ?_
  · exact typeArguments_pairs (argument opens)
  · refine .accept (fun found _ => .opens found) (fun found => ?_) fun _ => .pure
    refine .bind (PairsIf.among (typeParameters_pairs fun clean =>
      .first (ends (unmoved clean)) found)) fun parameters t => ?_
    exact .expectedClose fun _ => .pure

end Parser

theorem Attempt.columnRef_pairs : Attempt.Pairs input s 0 Attempt.columnRef 0 := by
  refine .look rfl (.ite (fun word => ?_) fun _ => unexpected_pairs _)
  refine .bind (.lift (path_pairs fun depth => .passes (Token.unpaired_of_isWord word))) fun path s => ?_
  exact .skip fun _ _ => .pure

namespace Grammar

variable {grammar : Grammar}

/-- The productions that nest leave as many parentheses open as they find, and no expression is missing
that was read without an error. -/
structure Paired (input : ParserInput) (grammar : Grammar) : Prop where
  expressionAbove : ∀ (above : Precedence) (s : ParserState),
    Pairs input s 0 (grammar.expressionAbove above) 0
  query : ∀ s : ParserState, Pairs input s 0 grammar.query 0
  queryBody : ∀ s : ParserState, Pairs input s 0 grammar.queryBody 0
  present : ∀ above : Precedence,
    Shows input (grammar.expressionAbove above) fun e => e.isMissing = false

variable (paired : grammar.Paired input)

include paired

/-! ### Expressions in phrases -/

theorem Paired.expression (s : ParserState) : Pairs input s 0 grammar.expression 0 :=
  paired.expressionAbove _ s

theorem expressions_pairs : Pairs input s 0 grammar.expressions 0 :=
  commaSeparated_pairs paired.expression

theorem expressionAfter_pairs (keyword : Keyword) :
    Pairs input s 0 (grammar.expressionAfter keyword) 0 :=
  .skip fun _ _ => .ite (fun _ => .bind (paired.expression _) fun _ _ => .pure) fun _ => .pure

theorem orderItem_pairs : Pairs input s 0 grammar.orderItem 0 :=
  .bind (paired.expression _) fun _ _ => .skip fun _ _ => .skip fun _ _ => .flat

theorem orderItems_pairs : Pairs input s 0 grammar.orderItems 0 :=
  commaSeparated_pairs fun _ => orderItem_pairs paired

/-! ### Windows -/

theorem frameBound_pairs : Pairs input s 0 grammar.frameBound 0 := by
  refine .skip fun _ _ => .ite (fun _ => .flat) fun _ => .skip fun _ _ => .ite (fun _ => .flat) fun _ => ?_
  exact .bind (paired.expressionAbove _ _) fun _ _ => .flat

instance frameUnit_flat : Flat frameUnit := Flat.bind

theorem frame_pairs : Pairs input s 0 grammar.frame 0 := by
  refine .skip fun unit _ => ?_
  cases unit with
  | none => exact .pure
  | some unit =>
    refine .skip fun _ _ => .ite (fun _ => ?_) fun _ => .bind (frameBound_pairs paired) fun _ _ => .pure
    refine .bind (frameBound_pairs paired) fun _ _ => .expectedPlain fun _ => ?_
    exact .bind (frameBound_pairs paired) fun _ _ => .pure

omit paired in
theorem windowBase_pairs : Pairs input s 0 windowBase 0 := by
  refine .look rfl (.ite (fun found => ?_) fun _ => .pure)
  exact .advance (TokenKind.unpaired_of_eq (beq_iff_eq.1 found)) fun _ _ => .pure

theorem partitioning_pairs : Pairs input s 0 grammar.partitioning 0 :=
  .skip fun _ _ => .ite (fun _ => .expectedPlain fun _ => expressions_pairs paired) fun _ => .pure

theorem ordering_pairs : Pairs input s 0 grammar.ordering 0 :=
  .skip fun _ _ => .ite (fun _ => .expectedPlain fun _ => orderItems_pairs paired) fun _ => .pure

theorem windowSpec_pairs : Pairs input s 0 grammar.windowSpec 0 := by
  refine .look rfl (.expect (fun found _ => .opens found) (fun _ => ?_) fun _ => .pure)
  refine .seq windowBase_pairs fun _ _ => .seq (partitioning_pairs paired) fun _ _ => ?_
  refine .seq (ordering_pairs paired) fun _ _ => .seq (frame_pairs paired) fun _ _ => ?_
  exact .expectedClose fun _ => .flat

theorem namedWindow_pairs : Attempt.Pairs input s 0 grammar.namedWindow 0 := by
  refine .bind Attempt.identifier_pairs fun _ _ => .bind Attempt.expect_flat fun _ _ => ?_
  refine .skip fun _ _ => .ite (fun _ => ?_) fun _ => .skip fun _ _ => ?_
  · exact .bind (Attempt.complete_pairs (windowSpec_pairs paired)) fun _ _ => .pure
  · exact .bind Attempt.identifier_pairs fun _ _ => .skip fun _ _ => .pure

end Grammar

end QueryLint
