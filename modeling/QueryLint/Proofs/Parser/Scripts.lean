import QueryLint.Proofs.Parser.Queries
import QueryLint.Proofs.Token.Layout

/-!
What a source is read into. The tokens of a source are an input as the productions need it, so
reading a statement or a script answers. A statement that is accepted takes up the tokens from the
first one on; the statements of a script follow one another, with nothing but semicolons between
them.
-/

namespace QueryLint

open QueryLint.Parser Text

/-! ### The input of a source -/

/-- What a dialect has to leave alone so that reading stops at the end of the input. -/
structure Dialect.Bounded (dialect : Dialect) : Prop where
  operator : dialect.precedence .endOfInput = Precedence.none
  opening : dialect.openingForm? .endOfInput = none
  source : dialect.sourceForm? .endOfInput = none
  join : dialect.join? .endOfInput = none

theorem Dialect.bigQuery_bounded : bigQuery.Bounded := by
  constructor <;> decide

theorem Parser.start_wellFormed {dialect : Dialect} (proper : dialect.Proper)
    (bounded : dialect.Bounded) (source : Bytes) : (start dialect source).1.WellFormed := by
  obtain ⟨tokens, ends, others⟩ := (TokenStream.ofSource_accountsFor proper source).ends
  have listed : (start dialect source).1.tokens.toList = tokens ++ _ := ends
  have size : (start dialect source).1.tokens.size = tokens.length + 1 := by
    rw [← Array.length_toList, listed, List.length_append, List.length_singleton]
  refine ⟨by omega, fun i inside => ?_, bounded.operator, bounded.opening, bounded.source,
    bounded.join⟩
  rw [ParserInput.token_eq inside, ← Array.getElem_toList, List.getElem_of_eq listed, size]
  by_cases last : i = tokens.length
  · simp [last]
  · have before : i < tokens.length := by omega
    rw [List.getElem_append_left before]
    have other := (others _ (List.getElem_mem before)).1
    exact ⟨fun impossible => absurd impossible other, fun impossible => by omega⟩

/-! ### One statement -/

/-- The result is a value, and the value and what was skipped on the way are as `holds` says. -/
def ParseResult.isAcceptedWith {α : Type} (result : ParseResult α)
    (holds : α → Option SyntaxError → Bool) : Bool :=
  match result with
  | .accepted value recovered => holds value recovered
  | .rejected _ | .exhausted => false

theorem ParseResult.exists_of_isAcceptedWith {α : Type} {result : ParseResult α}
    {holds : α → Option SyntaxError → Bool} (accepted : result.isAcceptedWith holds) :
    ∃ value recovered, result = .accepted value recovered ∧ holds value recovered := by
  cases result with
  | accepted value recovered => exact ⟨value, recovered, rfl, accepted⟩
  | rejected | exhausted => cases accepted

namespace Parser

variable {input : ParserInput} (formed : input.WellFormed) {grammar : Grammar}
  (sound : grammar.Sound input 0) {s : ParserState}

include formed sound

omit formed in
theorem statement_gives (inside : s.index < input.tokens.size) :
    Gives input s (statement grammar) fun query s' =>
      ∃ j ≤ s'.index, Covers input s.index j (.node (.query query)) := by
  refine (sound.query s (Nat.zero_le _) inside).bind fun query s₁ forward₁ inside₁ => ?_
  refine (accept_gives inside₁ Symbol.semicolon).discard.bind fun _ s₂ forward₂ inside₂ => ?_
  refine .look rfl (.look rfl ?_)
  refine ((fault_gives inside₂ _).when inside₂ _).bind fun _ s₃ forward₃ inside₃ => ?_
  exact .pure inside₃ fun _ _ _ _ _ read => ⟨s₁.index, by omega, read⟩

/-! ### Scripts -/

def Semicolons (input : ParserInput) (i j : Nat) : Prop :=
  ∀ k, i ≤ k → k < j → (input.token k).kind = Symbol.semicolon

omit formed sound in
theorem Semicolons.append {i j k : Nat} (first : Semicolons input i j)
    (second : Semicolons input j k) : Semicolons input i k := fun l after before =>
  (Nat.lt_or_ge l j).elim (first l after) fun later => second l later before

/-- Queries that take up a range of tokens one after the other, with semicolons around them. -/
inductive Sequenced (input : ParserInput) : Nat → Nat → List Query → Prop
  | done {i j : Nat} (gap : Semicolons input i j) (before : i ≤ j) : Sequenced input i j []
  | next {i a b j : Nat} {query : Query} {queries : List Query} (gap : Semicolons input i a)
      (before : i ≤ a) (covers : Covers input a b (.node (.query query)))
      (rest : Sequenced input b j queries) : Sequenced input i j (query :: queries)

omit sound in
theorem semicolons_yields (inside : s.index < input.tokens.size) :
    Yields input s semicolons fun _ s' =>
      s'.errors = s.errors ∧ Semicolons input s.index s'.index := by
  have step (bound : Nat) : ∀ s : ParserState, s.index < input.tokens.size →
      input.tokens.size - s.index < bound →
      Yields input s (repeated (do
        if ← accept Symbol.semicolon then return some () else return none) bound) fun _ s' =>
          s'.errors = s.errors ∧ Semicolons input s.index s'.index := by
    induction bound with
    | zero => omega
    | succ bound ih =>
      intro s inside enough
      by_cases found : (input.token s.index).kind = Symbol.semicolon
      · have more := formed.more inside found (by decide)
        have taken : (do
            if ← accept Symbol.semicolon then return some () else return none : Parser _) input s =
              some (some (), s.next) := bind_eq (accept_eq_true more found)
        refine .step taken (Yields.bind (ih s.next more ?_) fun _ s' moves read => ?_)
        · simp only [ParserState.next_index]
          omega
        · refine ⟨_, s', rfl, .refl moves.inside, read.1, Semicolons.append (j := s.index + 1) ?_ read.2⟩
          intro k after before
          obtain rfl : k = s.index := by omega
          exact found
      · have none : (do
            if ← accept Symbol.semicolon then return some () else return none : Parser _) input s =
              some (none, s) := bind_eq (accept_eq_false found)
        exact .look none ⟨[], s, rfl, .refl inside, rfl, fun k _ _ => by omega⟩
  refine .look rfl (Yields.bind (step _ s inside (Nat.lt_succ_self _)) fun _ s' moves read => ?_)
  exact ⟨(), s', rfl, .refl moves.inside, read⟩

theorem nextStatement_yields (inside : s.index < input.tokens.size) :
    Yields input s (nextStatement grammar) fun found s' =>
      (found.isSome → s.index < s'.index) ∧
      (s'.errors = [] → match found with
        | some query => ∃ a, s.index ≤ a ∧ Semicolons input s.index a ∧
            Covers input a s'.index (.node (.query query))
        | none => Semicolons input s.index s'.index ∧ s'.index + 1 = input.tokens.size) := by
  refine .look rfl ?_
  split
  next failed =>
    refine ⟨none, s, rfl, .refl inside, nofun, fun clean => ?_⟩
    simp [clean] at failed
  next =>
    refine (semicolons_yields formed inside).bind fun _ s₁ moves₁ ⟨clean₁, gap⟩ => .look rfl ?_
    have forward₁ := moves₁.forward
    split
    next ended =>
      refine ⟨none, s₁, rfl, .refl moves₁.inside, nofun, fun _ => ⟨gap, ?_⟩⟩
      exact (formed.ends _ moves₁.inside).1 (beq_iff_eq.1 ended)
    next =>
      refine Yields.bind (sound.query s₁ (Nat.zero_le _) moves₁.inside) fun query s₂ moves₂ read => ?_
      have forward₂ := moves₂.forward
      refine .look rfl ?_
      split
      next failed =>
        refine ⟨none, s₂, rfl, .refl moves₂.inside, nofun, fun clean => ?_⟩
        simp [clean] at failed
      next clean₂ =>
        have clean₂ : s₂.errors = [] := by simpa using clean₂
        have same : s₂.errors = s₁.errors := by
          rw [clean₂, eq_comm, ← List.prefix_nil, ← clean₂]
          exact moves₂.noted
        have read := read same
        have nonempty := read.nonempty
        refine .look rfl ?_
        cases (input.token s₂.index).kind != .endOfInput &&
            (input.token s₂.index).kind != Symbol.semicolon with
        | false => exact ⟨some query, s₂, rfl, .refl moves₂.inside, fun _ => by omega,
            fun _ => ⟨s₁.index, forward₁, gap, read⟩⟩
        | true =>
          refine Yields.bind (unexpected_gives moves₂.inside _) fun _ s₃ moves₃ noted =>
            ⟨some query, s₃, rfl, .refl moves₃.inside, fun _ => ?_, fun clean => ?_⟩
          · have := moves₃.forward
            omega
          · exact (noted (clean.trans clean₂.symm)).elim

theorem statements_yields (inside : s.index < input.tokens.size) :
    Yields input s (statements grammar) fun queries s' => s'.errors = [] →
      Sequenced input s.index s'.index queries ∧ s'.index + 1 = input.tokens.size := by
  have step (bound : Nat) : ∀ s : ParserState, s.index < input.tokens.size →
      input.tokens.size - s.index < bound →
      Yields input s (repeated (nextStatement grammar) bound) fun queries s' => s'.errors = [] →
        Sequenced input s.index s'.index queries ∧ s'.index + 1 = input.tokens.size := by
    induction bound with
    | zero => omega
    | succ bound ih =>
      intro s inside enough
      refine Yields.bind (nextStatement_yields formed sound inside)
        fun found s' moves ⟨taken, read⟩ => ?_
      cases found with
      | none =>
        refine ⟨[], s', rfl, .refl moves.inside, fun clean => ?_⟩
        obtain ⟨gap, last⟩ := read clean
        exact ⟨.done gap moves.forward, last⟩
      | some query =>
        have taken := taken rfl
        refine Yields.bind (ih s' moves.inside (by have := moves.inside; omega))
          fun queries s'' moves' rest =>
            ⟨query :: queries, s'', rfl, .refl moves'.inside, fun clean => ?_⟩
        have clean' : s'.errors = [] := List.prefix_nil.1 (clean ▸ moves'.noted)
        obtain ⟨a, before, gap, covers⟩ := read clean'
        exact ⟨.next gap before covers (rest clean).1, (rest clean).2⟩
  exact .look rfl (step _ s inside (Nat.lt_succ_self _))

end Parser

namespace Parser.Sequenced

variable {input : ParserInput} {i j : Nat} {queries : List Query}

theorem forward (sequenced : Sequenced input i j queries) : i ≤ j := by
  induction sequenced with
  | done _ before => exact before
  | next _ before covers _ ih =>
    have nonempty := covers.nonempty
    omega

theorem covers (sequenced : Sequenced input i j queries) :
    ∀ query ∈ queries, ∃ a b, i ≤ a ∧ b ≤ j ∧ Covers input a b (.node (.query query)) := by
  induction sequenced with
  | done => exact List.forall_mem_nil _
  | @next i a b j _ _ _ before covers rest ih =>
    have nonempty := covers.nonempty
    refine List.forall_mem_cons.2 ⟨⟨a, b, before, rest.forward, covers⟩, fun query member => ?_⟩
    obtain ⟨a', b', after, inside, covers'⟩ := ih query member
    exact ⟨a', b', by omega, inside, covers'⟩

end Parser.Sequenced

/-! ### Results -/

namespace Parser

variable {α : Type}

theorem start_inside {dialect : Dialect} {source : Bytes}
    (formed : (start dialect source).1.WellFormed) :
    (start dialect source).2.index < (start dialect source).1.tokens.size := formed.nonempty

theorem result_eq_accepted {answer : Option (α × ParserState)} {value : α}
    {recovered : Option SyntaxError} (accepted : result answer = .accepted value recovered) :
    ∃ s, answer = some (value, s) ∧ s.errors = [] ∧ s.recovered.head? = recovered := by
  unfold result at accepted
  split at accepted
  · cases accepted
  next value' s =>
    split at accepted
    · cases accepted
    next clean =>
      cases accepted
      exact ⟨s, rfl, clean, rfl⟩

end Parser

section Results

variable {dialect : Dialect} (proper : dialect.Proper) (bounded : dialect.Bounded)
  {source : Bytes} {recovered : Option SyntaxError}

include proper bounded

/-- An accepted statement takes up tokens from the first one on. -/
theorem Query.covers_of_parse {query : Query}
    (accepted : Query.parse dialect source = .accepted query recovered) :
    ∃ j < (start dialect source).1.tokens.size,
      Covers (start dialect source).1 0 j (.node (.query query)) := by
  have formed := start_wellFormed proper bounded source
  obtain ⟨value, s, run, moves, read⟩ :=
    statement_gives (Grammar.ofInput_sound formed) (start_inside formed)
  obtain ⟨s', run', clean, _⟩ := result_eq_accepted accepted
  obtain ⟨rfl, rfl⟩ : query = value ∧ s' = s := by simpa using run'.symm.trans run
  have quiet : s'.errors = (start dialect source).2.errors := by
    rw [clean, eq_comm, ← List.prefix_nil, ← clean]
    exact moves.noted
  obtain ⟨j, before, covers⟩ := read quiet
  exact ⟨j, Nat.lt_of_le_of_lt before moves.inside, covers⟩

/-- The statements of an accepted script and the semicolons around them are all of its tokens. -/
theorem Script.sequenced_of_parse {script : Script}
    (accepted : Script.parse dialect source = .accepted script recovered) :
    ∃ j, j + 1 = (start dialect source).1.tokens.size ∧
      Sequenced (start dialect source).1 0 j script.statements := by
  have formed := start_wellFormed proper bounded source
  obtain ⟨queries, s, run, moves, read⟩ :=
    statements_yields formed (Grammar.ofInput_sound formed) (start_inside formed)
  unfold Script.parse at accepted
  dsimp only at accepted
  split at accepted
  next queries' _ accepted' =>
    cases accepted
    obtain ⟨s', run', clean, _⟩ := result_eq_accepted accepted'
    obtain ⟨rfl, rfl⟩ : queries' = queries ∧ s' = s := by simpa using run'.symm.trans run
    obtain ⟨sequenced, last⟩ := read clean
    exact ⟨s'.index, last, sequenced⟩
  · cases accepted
  · cases accepted

end Results

end QueryLint
