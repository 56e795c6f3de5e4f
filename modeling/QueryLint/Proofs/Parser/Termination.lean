import QueryLint.Proofs.Parser.Loops
import QueryLint.Proofs.Parser.Nesting

/-!
Reading ends on every source. The tokens of a source are its measure, although the cursor is not always
moved forward: a loop goes on only behind a token that it has read, a production is entered again only
behind the token from which it was entered, and where the query of a definition is skipped the cursor is
set behind the parenthesis that closes it.
-/

namespace QueryLint

open QueryLint.Parser Text

/-! ### Skipped queries -/

/-- Parentheses that belong together: those between them are balanced. -/
structure ParserInput.Matching (input : ParserInput) (opening closing : Nat) : Prop where
  before : opening < closing
  inside : closing < input.tokens.size
  opens : (input.token opening).kind = Symbol.leftParen
  closes : (input.token closing).kind = Symbol.rightParen
  balanced : Token.Balanced ((input.rest (opening + 1)).take (closing - (opening + 1)))

theorem ParserInput.matching_of_closing? {input : ParserInput} {opening closing : Nat}
    (opens : (input.token opening).kind = Symbol.leftParen)
    (found : input.closing? opening = some closing) : input.Matching opening closing := by
  obtain ⟨offset, closes, rfl⟩ := Option.map_eq_some_iff.1 found
  have inside : opening < input.tokens.size := by
    refine Nat.lt_of_not_le fun beyond => ?_
    rw [rest, List.drop_eq_nil_of_le (by simpa using beyond)] at closes
    cases closes
  rw [rest_eq_cons inside, Token.closingOffset_leftParen opens] at closes
  obtain ⟨between, ends, rfl⟩ := Option.map_eq_some_iff.1 closes
  obtain ⟨⟨token, listed, right⟩, balanced⟩ := Token.closingOffset_spec ends
  rw [ParserInput.rest, List.getElem?_drop] at listed
  obtain ⟨inside', same⟩ := List.getElem?_eq_some_iff.1 listed
  have inside' : opening + 1 + between < input.tokens.size := inside'
  obtain here : opening + (between + 1) = opening + 1 + between := by omega
  rw [here]
  refine ⟨by omega, inside', opens, ?_, ?_⟩
  · rw [token_eq inside', ← Array.getElem_toList, same, right]
  · rwa [Nat.add_sub_cancel_left]

namespace Grammar

variable {input : ParserInput} (formed : input.WellFormed) {grammar : Grammar}
  (sound : grammar.Sound input 0) {s : ParserState}

include formed sound

/-- A definition that has no query although nothing was noted is one whose query was skipped: the
cursor is right behind the parenthesis that closes the one before the query. -/
theorem cte_skips {cte : Cte} {s' : ParserState} (inside : s.index < input.tokens.size)
    (run : grammar.cte input s = some (cte, s')) (unread : cte.query = none)
    (quiet : s'.errors = s.errors) :
    ∃ columns t closing, cteColumns input s.next = some (some columns, t) ∧ s.index < t.index ∧
      (input.token t.index).kind = Keyword.AS ∧ input.Matching (t.index + 1) closing ∧
      s'.index = closing + 1 := by
  obtain ⟨_, read⟩ := (cte_gives formed sound (Nat.zero_le _) inside).of_run run
  obtain ⟨columns, t, named, after, defined, opens, closing, closes, behind⟩ := (read quiet).2 unread
  have matching := ParserInput.matching_of_closing? opens closes
  refine ⟨columns, t, closing, named, after, defined, matching, ?_⟩
  -- a closing parenthesis is not the last token
  have more := formed.more matching.inside matching.closes (by decide)
  omega

end Grammar

/-! ### Requests -/

/-- What the reader of a form can ask of the parser. -/
inductive ParserRequest where
  | current
  | lookahead
  | accept (kind : TokenKind)
  | expect (kind : TokenKind)
  | advance
  | check (kind : TokenKind)
  | expression
  | expressions
  | orderItems
  | identifier
  | columnRef
  | typeName
  | query
  | windowSpec
  | addError (message : String)
  | position
  | previousEnd

/-- Serves a request; only where it leaves the parser is kept. -/
def ParserRequest.serve (grammar : Grammar) : ParserRequest → Parser Unit
  | .current => discard Parser.current
  | .lookahead => discard Parser.lookahead
  | .accept kind => discard (Parser.accept kind)
  | .expect kind => discard (Attempt.expect kind).run
  | .advance => Parser.advance
  | .check kind => discard (Parser.check kind)
  | .expression => discard (Attempt.complete grammar.expression).run
  | .expressions => discard (Attempt.complete grammar.expressions).run
  | .orderItems => discard (Attempt.complete grammar.orderItems).run
  | .identifier => discard Attempt.identifier.run
  | .columnRef => discard Attempt.columnRef.run
  | .typeName => discard (Attempt.complete Parser.typeName).run
  | .query => discard (Attempt.complete grammar.query).run
  | .windowSpec => discard (Attempt.complete grammar.windowSpec).run
  | .addError message => fault (.other message)
  | .position => discard Parser.position
  | .previousEnd => discard Parser.previousEnd

namespace Grammar

variable {input : ParserInput} (formed : input.WellFormed) {grammar : Grammar}
  (sound : grammar.Sound input 0) {s : ParserState}

theorem expect_answers (kind : TokenKind) (inside : s.index < input.tokens.size) :
    Attempt.Gives input s (Attempt.expect kind) fun _ _ => True := by
  have accepted : Yields input s (accept kind) fun _ s' => s'.errors = s.errors ∧ True :=
    (accept_yields inside kind).mono fun _ _ _ clean => ⟨clean, trivial⟩
  refine (Attempt.Gives.lift accepted).bind fun found s₁ _ inside₁ _ => ?_
  cases found with
  | true => exact .pure inside₁ trivial
  | false => exact Attempt.unexpected_gives inside₁ _

include formed sound

theorem serve_answers (request : ParserRequest) (inside : s.index < input.tokens.size) :
    Answers input s (request.serve grammar) := by
  have after := Nat.zero_le s.index
  have discarded {α : Type} {p : Parser α} {Q : α → ParserState → Prop}
      (yields : Yields input s p Q) : Answers input s (discard p) :=
    .bind yields fun _ _ _ inside => .pure inside
  cases request with
  | current | lookahead | check kind | position | previousEnd =>
    exact ⟨(), s, rfl, .refl inside, trivial⟩
  | accept kind => exact discarded (accept_yields inside kind)
  | expect kind => exact discarded (expect_answers kind inside)
  | advance => exact Yields.answers (advance_yields inside)
  | expression => exact discarded (Attempt.complete_gives (sound.expression after inside))
  | expressions =>
    exact discarded (Attempt.complete_gives (expressions_gives formed sound after inside))
  | orderItems =>
    exact discarded (Attempt.complete_gives (orderItems_gives formed sound after inside))
  | identifier => exact discarded (identifier_gives formed inside)
  | columnRef => exact discarded (columnRef_gives formed inside)
  | typeName => exact discarded (Attempt.complete_gives (typeName_gives formed inside))
  | query => exact discarded (Attempt.complete_gives (sound.query s after inside))
  | windowSpec =>
    exact discarded (Attempt.complete_gives (windowSpec_gives formed sound (Nat.zero_le _) inside))
  | addError message => exact Yields.answers (fault_gives inside _)

end Grammar

/-! ### Nesting -/

/-- Answers only from behind a token. -/
def Parser.behind {α : Type} (place : Nat) (p : Parser α) : Parser α := fun input s =>
  if place < s.index then p input s else none

def Grammar.behind (place : Nat) (grammar : Grammar) : Grammar where
  expressionAbove above := Parser.behind place (grammar.expressionAbove above)
  query := Parser.behind place grammar.query
  queryBody := Parser.behind place grammar.queryBody

/-- The productions that nest answer from a state. -/
structure Grammar.AnswersAt (input : ParserInput) (s : ParserState) (grammar : Grammar) : Prop where
  expressionAbove (above : Precedence) : Parser.Answers input s (grammar.expressionAbove above)
  query : Parser.Answers input s grammar.query
  queryBody : Parser.Answers input s grammar.queryBody

namespace Grammar

variable {input : ParserInput} {grammar : Grammar} {lo place : Nat} {s : ParserState}

theorem behind_gives {α : Type} {p : Parser α} {S : α → ParserState → Prop} (after : place < s.index)
    (gives : Gives input s p S) : Gives input s (Parser.behind place p) S := by
  obtain ⟨a, s', run, reads⟩ := gives
  exact ⟨a, s', (if_pos after).trans run, reads⟩

theorem Sound.behind (sound : grammar.Sound input 0) (place : Nat) :
    (grammar.behind place).Sound input (place + 1) where
  expressionAbove above s after inside :=
    behind_gives after (sound.expressionAbove above s (Nat.zero_le _) inside)
  query s after inside := behind_gives after (sound.query s (Nat.zero_le _) inside)
  queryBody s after inside := behind_gives after (sound.queryBody s (Nat.zero_le _) inside)

/-- A production answers with productions below it that answer only behind the token from which it is
entered, so it does not enter them before it has read that token. -/
theorem next_behind_answers (formed : input.WellFormed) (sound : grammar.Sound input 0)
    (inside : s.index < input.tokens.size) : (grammar.behind s.index).next.AnswersAt input s := by
  have nested := Sound.next formed (sound.behind s.index)
  exact ⟨fun above => Yields.answers (nested.expressionAbove above s (Nat.le_refl _) inside),
    Yields.answers (nested.query s (Nat.le_refl _) inside),
    Yields.answers (nested.queryBody s (Nat.le_refl _) inside)⟩

end Grammar

/-! ### Sources -/

theorem Parser.result_ne_exhausted {α : Type} {answer : Option (α × ParserState)} {value : α}
    {s : ParserState} (answered : answer = some (value, s)) : result answer ≠ .exhausted := by
  subst answered
  unfold result
  dsimp only
  split <;> nofun

theorem Query.parse_ne_exhausted {dialect : Dialect} (proper : dialect.Proper)
    (bounded : dialect.Bounded) (source : Bytes) : Query.parse dialect source ≠ .exhausted := by
  have formed := start_wellFormed proper bounded source
  obtain ⟨_, _, answered, _⟩ := statement_gives (Grammar.ofInput_sound formed) (start_inside formed)
  exact result_ne_exhausted answered

theorem Script.parse_ne_exhausted {dialect : Dialect} (proper : dialect.Proper)
    (bounded : dialect.Bounded) (source : Bytes) : Script.parse dialect source ≠ .exhausted := by
  have formed := start_wellFormed proper bounded source
  obtain ⟨_, _, answered, _⟩ :=
    statements_yields formed (Grammar.ofInput_sound formed) (start_inside formed)
  have answers := result_ne_exhausted answered
  unfold Script.parse
  dsimp only
  split
  · nofun
  · nofun
  next exhausted => exact absurd exhausted answers

/-- Reading ends on every source. Its statement and its script are read to an end, and every request
of a form is served from every token; each round of a loop but the last has read a token; a production
enters the productions below it only behind its first token; and a definition whose query was skipped
leaves the cursor right behind the parenthesis that closes its own. -/
theorem Grammar.reading_ends (source : Bytes) :
    let input := (start .bigQuery source).1
    let grammar := ofInput input
    (Query.parse .bigQuery source ≠ .exhausted ∧ Script.parse .bigQuery source ≠ .exhausted) ∧
    (∀ (request : ParserRequest) (s : ParserState), s.index < input.tokens.size →
      Parser.Answers input s (request.serve grammar)) ∧
    grammar.LoopsHalt input ∧
    (∀ s : ParserState, s.index < input.tokens.size →
      (grammar.behind s.index).next.AnswersAt input s) ∧
    ∀ (s s' : ParserState) (cte : Cte), s.index < input.tokens.size →
      grammar.cte input s = some (cte, s') → cte.query = none → s'.errors = s.errors →
      ∃ columns t closing, cteColumns input s.next = some (some columns, t) ∧ s.index < t.index ∧
        (input.token t.index).kind = Keyword.AS ∧ input.Matching (t.index + 1) closing ∧
        s'.index = closing + 1 := by
  intro input grammar
  have formed := start_wellFormed Dialect.bigQuery_proper Dialect.bigQuery_bounded source
  have sound := ofInput_sound formed
  have unclaimed : Dialect.bigQuery.clause? .endOfInput = none := by decide
  exact ⟨⟨Query.parse_ne_exhausted Dialect.bigQuery_proper Dialect.bigQuery_bounded source,
    Script.parse_ne_exhausted Dialect.bigQuery_proper Dialect.bigQuery_bounded source⟩,
    fun request s inside => serve_answers formed sound request inside,
    loopsHalt formed sound unclaimed,
    fun s inside => next_behind_answers formed sound inside,
    fun s s' cte inside run unread quiet => cte_skips formed sound inside run unread quiet⟩

end QueryLint
