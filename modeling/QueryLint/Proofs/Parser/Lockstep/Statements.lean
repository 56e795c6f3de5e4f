import QueryLint.Proofs.Parser.Lockstep.Queries
import QueryLint.Proofs.Parser.Scripts

/-!
Whole readings side by side. Grammars agree level by level, whatever the number of their levels. The
statements of an excerpt that is not cut are read as in the other input, errors included where these
are compared. Those of an excerpt that is cut come first in the other input, and reading goes on behind
the semicolon there.
-/

namespace QueryLint

open QueryLint.Parser

theorem Grammar.level_agrees (x : Excerpt) (n m : Nat) : Agrees x (level n) (level m) := by
  induction n generalizing m with
  | zero => exact ⟨fun _ => exhausted_needs, exhausted_needs, exhausted_needs⟩
  | succ n ih =>
    have steps (m : Nat) : Agrees x (level (n + 1)) (level (m + 1)) :=
      ⟨readExpression_needs (ih m), readQuery_needs (ih m), readQueryBody_needs (ih m)⟩
    cases m with
    | zero =>
      exact ⟨fun precedence => ((steps 0).expressionAbove precedence).exhausted,
        (steps 0).query.exhausted, (steps 0).queryBody.exhausted⟩
    | succ m => exact steps m

namespace Parser

variable {input : ParserInput} {g : Grammar} {s t : ParserState}

/-! ### Semicolons -/

/-- Where the semicolons end that begin at an index. -/
structure Separated (input : ParserInput) (i j : Nat) : Prop where
  before : i ≤ j
  gap : Semicolons input i j
  ends : (input.token j).kind ≠ Symbol.semicolon

theorem Separated.unique {i j k : Nat} (separated : Separated input i j)
    (separated' : Separated input i k) : j = k := by
  obtain less | same | less := Nat.lt_trichotomy j k
  · exact absurd (separated'.gap j separated.before less) separated.ends
  · exact same
  · exact absurd (separated.gap k separated'.before less) separated'.ends

theorem Separated.prepend {i j k : Nat} (gap : Semicolons input i j) (before : i ≤ j)
    (separated : Separated input j k) : Separated input i k :=
  ⟨Nat.le_trans before separated.before, gap.append separated.gap, separated.ends⟩

theorem semicolons_eq_some (run : semicolons input s = some ((), t)) :
    t = { s with index := t.index } ∧ Separated input s.index t.index := by
  have step : ∀ bound (s : ParserState) units t, repeated (do
      if ← accept Symbol.semicolon then return some () else return none) bound input s =
          some (units, t) →
      t = { s with index := t.index } ∧ Separated input s.index t.index := by
    intro bound
    induction bound with
    | zero => nofun
    | succ bound ih =>
      intro s units t run
      obtain ⟨found, s₁, taken, run⟩ := bind_eq_some run
      obtain ⟨accepted, s₂, read, taken⟩ := bind_eq_some taken
      rw [accept_eq] at read
      split at read
      next here =>
        cases read
        cases taken
        obtain ⟨others, s₃, rest, ⟨⟩⟩ := bind_eq_some run
        obtain ⟨same, separated⟩ := ih _ others t rest
        refine ⟨same, .prepend (fun k after before => ?_) (le_following _ _) separated⟩
        have next : input.following s.index ≤ s.index + 1 := by
          unfold ParserInput.following
          split <;> omega
        obtain rfl : k = s.index := by omega
        exact beq_iff_eq.1 here
      next absent =>
        cases read
        cases taken
        cases run
        exact ⟨rfl, Nat.le_refl _, fun k _ _ => by omega, fun here => absent (beq_iff_eq.2 here)⟩
  obtain ⟨_, _, ⟨⟩, run⟩ := bind_eq_some run
  obtain ⟨_, _, run, ⟨⟩⟩ := bind_eq_some run
  exact step _ _ _ _ run

/-! ### One statement -/

def separator : Parser Unit := do
  let token ← current
  when (token.kind != .endOfInput && token.kind != Symbol.semicolon)
    (unexpected Symbol.semicolon.text)

theorem nextStatement_of_failed (failed : s.errors ≠ []) : nextStatement g input s = some (none, s) := by
  have positive : 0 < s.errors.length := List.length_pos_iff.2 failed
  rw [nextStatement, bind_eq (failedSince_eq 0), decide_eq_true positive]
  rfl

/-- What the next statement may be when no error was noted before. -/
inductive Asks (input : ParserInput) (g : Grammar) (s₁ : ParserState) : Option Query → ParserState → Prop
  | ended (last : (input.token s₁.index).kind = .endOfInput) : Asks input g s₁ none s₁
  | failed {query : Query} {t : ParserState} (more : (input.token s₁.index).kind ≠ .endOfInput)
      (read : g.query input s₁ = some (query, t)) (fails : t.errors ≠ []) : Asks input g s₁ none t
  | read {query : Query} {s₂ t : ParserState} (more : (input.token s₁.index).kind ≠ .endOfInput)
      (read : g.query input s₁ = some (query, s₂)) (clean : s₂.errors = [])
      (followed : separator input s₂ = some ((), t)) : Asks input g s₁ (some query) t

theorem nextStatement_cases {found : Option Query} (clean : s.errors = [])
    (run : nextStatement g input s = some (found, t)) :
    ∃ s₁, semicolons input s = some ((), s₁) ∧ Asks input g s₁ found t := by
  obtain ⟨_, _, ⟨⟩, run⟩ := bind_eq_some run
  rw [clean] at run
  obtain ⟨_, s₁, skipped, run⟩ := bind_eq_some run
  refine ⟨s₁, skipped, ?_⟩
  obtain ⟨_, _, ⟨⟩, run⟩ := bind_eq_some run
  split at run
  next last =>
    cases run
    exact .ended (beq_iff_eq.1 last)
  next more =>
    have more : (input.token s₁.index).kind ≠ .endOfInput := fun last => more (beq_iff_eq.2 last)
    obtain ⟨query, s₂, read, run⟩ := bind_eq_some run
    obtain ⟨_, _, ⟨⟩, run⟩ := bind_eq_some run
    split at run
    next fails =>
      cases run
      exact .failed more read fun clean => by simp [clean] at fails
    next clean =>
      obtain ⟨_, _, ⟨⟩, run⟩ := bind_eq_some run
      obtain ⟨_, _, followed, ⟨⟩⟩ := bind_eq_some run
      refine .read more read ?_ followed
      simpa using clean

end Parser

/-! ### Statements of an excerpt -/

namespace Excerpt

variable {x : Excerpt} {g g' : Grammar} {s s' t u : ParserState}

/-- The second reading is at the same token, or has nothing but semicolons to read before it. -/
structure Behind (x : Excerpt) (s s' : ParserState) : Prop where
  before : s'.index ≤ x.shift + s.index
  gap : Semicolons x.second s'.index (x.shift + s.index)
  within : s.index ≤ x.last
  errors : x.Alike s.errors s'.errors
  recovered : x.Alike s.recovered s'.recovered

theorem Level.behind (level : x.Level s s') : x.Behind s s' :=
  ⟨Nat.le_of_eq level.index, fun k after before => by have := level.index; omega, level.within,
    level.errors, level.recovered⟩

theorem kind_eq {i : Nat} (inside : x.cut → i < x.last) :
    (x.second.token (x.shift + i)).kind = (x.first.token i).kind := by
  rw [(token_eq_of_alike (token_alike inside)).1]

theorem le_last_of_separated {i j : Nat} (within : i ≤ x.last) (separated : Separated x.first i j) :
    j ≤ x.last := by
  refine Nat.not_lt.1 fun beyond => ?_
  have semicolon := separated.gap x.last within beyond
  rw [(x.ends x.last (Nat.le_refl _)).2 rfl] at semicolon
  cases semicolon

theorem Behind.separated (behind : x.Behind s s') {i : Nat} (separated : Separated x.first s.index i)
    (inside : x.cut → i < x.last) : Separated x.second s'.index (x.shift + i) := by
  have before := separated.before
  refine .prepend behind.gap behind.before ⟨by omega, fun k after within => ?_, ?_⟩
  · obtain ⟨k, rfl⟩ : ∃ n, k = x.shift + n := ⟨k - x.shift, by omega⟩
    rw [kind_eq fun cut => by have := inside cut; omega]
    exact separated.gap k (by omega) (by omega)
  · rw [kind_eq inside]
    exact separated.ends

theorem Behind.semicolons (behind : x.Behind s s') {s₁ u₁ : ParserState}
    (skipped : Parser.semicolons x.first s = some ((), s₁))
    (skipped' : Parser.semicolons x.second s' = some ((), u₁)) (inside : x.cut → s₁.index < x.last) :
    x.Level s₁ u₁ := by
  obtain ⟨same, separated⟩ := semicolons_eq_some skipped
  obtain ⟨same', separated'⟩ := semicolons_eq_some skipped'
  have index := separated'.unique (behind.separated separated inside)
  refine ⟨index, le_last_of_separated behind.within separated, ?_, ?_⟩ <;> rw [same, same']
  · exact behind.errors
  · exact behind.recovered

end Excerpt

namespace Parser

variable {x : Excerpt} {g g' : Grammar} {s s' t u : ParserState}

theorem separator_agrees : Agrees x true 0 separator separator := by
  refine .token (fun token span _ => ?_) fun _ token token' final final' => ?_
  · exact Agrees.when (unexpected_agrees _) _
  · have nothing : Agrees x true 0 (when false (unexpected Symbol.semicolon.text))
        (when false (unexpected Symbol.semicolon.text)) := .pure rfl
    obtain ends | ends := final.kind <;> obtain ends' | ends' := final'.kind <;>
      rw [ends, ends'] <;> exact nothing

variable (agrees : Grammar.Agrees x g g')

include agrees

theorem nextStatement_counts {found : Option Query} (run : nextStatement g x.first s = some (found, t))
    (counts : x.Counts t) : x.Counts s := by
  by_cases clean : s.errors = []
  · obtain ⟨s₁, skipped, asks⟩ := nextStatement_cases clean run
    have same := (semicolons_eq_some skipped).1
    suffices x.Counts s₁ by rwa [same] at this
    cases asks with
    | ended => exact counts
    | failed _ read => exact agrees.query.ahead.grows s₁ _ t read counts
    | read _ read _ followed =>
      exact agrees.query.ahead.grows s₁ _ _ read (separator_agrees.grows _ _ t followed counts)
  · rw [nextStatement_of_failed clean] at run
    cases run
    exact counts

theorem asks_agrees (level : x.Level s s') (inside : x.cut → s.index < x.last)
    {found found' : Option Query} (asks : Asks x.first g s found t)
    (asks' : Asks x.second g' s' found' u) (counts : x.Counts t) :
    x.Level t u ∧ x.Alike found found' := by
  have kind : (x.second.token s'.index).kind = (x.first.token s.index).kind := by
    rw [level.index, Excerpt.kind_eq inside]
  have query {q q' : Query} {s₂ u₂ : ParserState} (read : g.query x.first s = some (q, s₂))
      (read' : g'.query x.second s' = some (q', u₂)) (counts : x.Counts s₂) :
      x.Together s₂ u₂ ∧ x.Alike q q' :=
    agrees.query.ahead.agree s s' level nofun inside q s₂ q' u₂ read read' counts trivial
  cases asks with
  | ended last =>
    cases asks' with
    | ended => exact ⟨level, rfl⟩
    | failed more | read more => exact absurd (kind.trans last) more
  | failed more read fails =>
    cases asks' with
    | ended last => exact absurd (kind.symm.trans last) more
    | failed _ read' => exact ⟨(query read read' counts).1.toLevel, rfl⟩
    | read _ read' clean =>
      have errors := (query read read' counts).1.errors
      rw [clean] at errors
      exact absurd (List.map_eq_nil_iff.1 errors) fails
  | read more read clean followed =>
    have counts₂ := separator_agrees.grows _ _ t followed counts
    cases asks' with
    | ended last => exact absurd (kind.symm.trans last) more
    | failed _ read' fails =>
      have errors := (query read read' counts₂).1.errors
      rw [clean] at errors
      exact absurd (List.map_eq_nil_iff.1 errors.symm) fails
    | read _ read' _ followed' =>
      obtain ⟨together, alike⟩ := query read read' counts₂
      have after := separator_agrees.agree _ _ together.toLevel (fun _ => together.started)
        together.toLevel.ahead () t () u followed followed' counts trivial
      exact ⟨after.1.toLevel, congrArg some alike⟩

/-- The next statement is the same in both inputs; where the excerpt is cut, if there is one. -/
theorem nextStatement_agrees (behind : x.Behind s s') {found found' : Option Query}
    (run : nextStatement g x.first s = some (found, t))
    (run' : nextStatement g' x.second s' = some (found', u)) (counts : x.Counts t)
    (inside : x.cut → found.isSome) : x.Behind t u ∧ x.Alike found found' := by
  by_cases clean : s.errors = []
  · have clean' : s'.errors = [] := by
      have alike := behind.errors
      rw [clean] at alike
      exact List.map_eq_nil_iff.1 alike.symm
    obtain ⟨s₁, skipped, asks⟩ := nextStatement_cases clean run
    obtain ⟨u₁, skipped', asks'⟩ := nextStatement_cases clean' run'
    have within := Excerpt.le_last_of_separated behind.within (semicolons_eq_some skipped).2
    have inside : x.cut → s₁.index < x.last := fun cut => by
      refine Nat.lt_of_le_of_ne within fun last => ?_
      have last := (x.ends s₁.index within).2 last
      cases asks with
      | ended | failed => cases inside cut
      | read more => exact more last
    have level := behind.semicolons skipped skipped' inside
    obtain ⟨after, alike⟩ := asks_agrees agrees level inside asks asks' counts
    exact ⟨after.behind, alike⟩
  · have failed' : s'.errors ≠ [] := fun clean' => clean (List.map_eq_nil_iff.1 (by
      have alike := behind.errors
      rw [clean'] at alike
      exact alike))
    rw [nextStatement_of_failed clean] at run
    rw [nextStatement_of_failed failed'] at run'
    cases run
    cases run'
    exact ⟨behind, rfl⟩

theorem statements_counts {bound : Nat} {queries : List Query}
    (run : repeated (nextStatement g) bound x.first s = some (queries, t)) (counts : x.Counts t) :
    x.Counts s := by
  induction bound generalizing s queries with
  | zero => cases run
  | succ bound ih =>
    obtain ⟨found, s₁, read, run⟩ := bind_eq_some run
    refine nextStatement_counts agrees read ?_
    cases found with
    | none =>
      cases run
      exact counts
    | some query =>
      obtain ⟨others, _, rest, ⟨⟩⟩ := bind_eq_some run
      exact ih rest

/-- The statements of an excerpt that is not cut are those of the other input from there on. -/
theorem statements_agrees (whole : ¬x.cut) {bound bound' : Nat} {queries queries' : List Query}
    (behind : x.Behind s s') (run : repeated (nextStatement g) bound x.first s = some (queries, t))
    (run' : repeated (nextStatement g') bound' x.second s' = some (queries', u))
    (counts : x.Counts t) : x.Behind t u ∧ x.Alike queries queries' := by
  induction bound generalizing bound' s s' queries queries' with
  | zero => cases run
  | succ bound ih =>
    obtain _ | bound' := bound'
    · cases run'
    obtain ⟨found, s₁, read, run⟩ := bind_eq_some run
    obtain ⟨found', u₁, read', run'⟩ := bind_eq_some run'
    have counts₁ : x.Counts s₁ := by
      cases found with
      | none =>
        cases run
        exact counts
      | some query =>
        obtain ⟨others, _, rest, ⟨⟩⟩ := bind_eq_some run
        exact statements_counts agrees rest counts
    obtain ⟨behind₁, alike⟩ := nextStatement_agrees agrees behind read read' counts₁
      fun cut => absurd cut whole
    cases found with
    | none =>
      cases found' with
      | none =>
        cases run
        cases run'
        exact ⟨behind₁, rfl⟩
      | some => cases alike
    | some query =>
      cases found' with
      | none => cases alike
      | some query' =>
        obtain ⟨others, _, rest, ⟨⟩⟩ := bind_eq_some run
        obtain ⟨others', _, rest', ⟨⟩⟩ := bind_eq_some run'
        obtain ⟨after, same⟩ := ih behind₁ rest rest'
        exact ⟨after, by rw [Excerpt.Alike, relocate_cons, relocate_cons, Option.some.inj alike, same]⟩

omit agrees in
/-- From a state nothing but semicolons is read up to an index, and nothing was noted before. -/
structure Leading (input : ParserInput) (i : Nat) (s : ParserState) : Prop where
  before : s.index ≤ i
  gap : Semicolons input s.index i
  errors : s.errors = []
  recovered : s.recovered = []

/-- Behind the statements of an excerpt that is cut, reading goes on after the semicolon there. -/
theorem statements_through (cut : x.cut)
    (seam : (x.second.token (x.shift + x.last)).kind = Symbol.semicolon) {bound bound' : Nat}
    {queries queries' : List Query} (behind : x.Behind s s')
    (run : repeated (nextStatement g) bound x.first s = some (queries, t))
    (run' : repeated (nextStatement g') bound' x.second s' = some (queries', u))
    (counts : x.Counts t) :
    ∃ front back bound₂ s₂, queries' = front ++ back ∧ x.Alike queries front ∧
      Leading x.second (x.shift + x.last + 1) s₂ ∧
      repeated (nextStatement g') bound₂ x.second s₂ = some (back, u) := by
  have strict : ¬x.lax := fun lax => (x.strict lax).2 cut
  induction bound generalizing bound' s s' queries queries' with
  | zero => cases run
  | succ bound ih =>
    have quiet := Excerpt.counts_strict strict (statements_counts agrees run counts)
    obtain ⟨found, s₁, read, run⟩ := bind_eq_some run
    cases found with
    | none =>
      cases run
      refine ⟨[], queries', bound', s', rfl, rfl, ?_, run'⟩
      obtain ⟨s₁, skipped, asks⟩ := nextStatement_cases quiet.1 read
      have separated := (semicolons_eq_some skipped).2
      have within := Excerpt.le_last_of_separated behind.within separated
      have last : s₁.index = x.last := by
        cases asks with
        | ended last => exact (x.ends _ within).1 last
        | failed _ _ fails => exact absurd (Excerpt.counts_strict strict counts).1 fails
      have before := behind.before
      have here := behind.within
      refine ⟨by omega, fun k after before => ?_, ?_, ?_⟩
      · by_cases early : k < x.shift + s.index
        · exact behind.gap k after early
        · obtain ⟨k, rfl⟩ : ∃ n, k = x.shift + n := ⟨k - x.shift, by omega⟩
          by_cases there : k = x.last
          · rw [there]
            exact seam
          · rw [Excerpt.kind_eq fun _ => by omega]
            exact separated.gap k (by omega) (by omega)
      · have alike := behind.errors
        rw [quiet.1] at alike
        exact List.map_eq_nil_iff.1 alike.symm
      · have alike := behind.recovered
        rw [quiet.2] at alike
        exact List.map_eq_nil_iff.1 alike.symm
    | some query =>
      obtain ⟨others, _, rest, ⟨⟩⟩ := bind_eq_some run
      obtain _ | bound' := bound'
      · cases run'
      obtain ⟨found', u₁, read', run'⟩ := bind_eq_some run'
      obtain ⟨behind₁, alike⟩ := nextStatement_agrees agrees behind read read'
        (statements_counts agrees rest counts) fun _ => rfl
      cases found' with
      | none => cases alike
      | some query' =>
        obtain ⟨others', _, rest', ⟨⟩⟩ := bind_eq_some run'
        obtain ⟨front, back, bound₂, s₂, rfl, same, leading, rest⟩ := ih behind₁ rest rest'
        refine ⟨query' :: front, back, bound₂, s₂, rfl, ?_, leading, rest⟩
        rw [Excerpt.Alike, relocate_cons, relocate_cons, Option.some.inj alike, same]

omit agrees in
theorem Leading.behind (leading : Leading x.second x.shift s') :
    x.Behind {} s' where
  before := leading.before
  gap := leading.gap
  within := Nat.zero_le _
  errors := by rw [leading.errors]; rfl
  recovered := by rw [leading.recovered]; rfl

end Parser

/-! ### Scripts -/

abbrev sourceTokens (source : Text.Bytes) : TokenStream :=
  TokenStream.ofSource Dialect.bigQuery.lexicon source

namespace Parser

variable (source : Text.Bytes)

theorem start_dialect : (start .bigQuery source).1.dialect = .bigQuery := rfl

theorem start_tokens : (start .bigQuery source).1.tokens.toList = (sourceTokens source).tokens := rfl

theorem start_size : (start .bigQuery source).1.tokens.size = (sourceTokens source).tokens.length := rfl

theorem start_formed : (start .bigQuery source).1.WellFormed :=
  start_wellFormed Dialect.bigQuery_proper Dialect.bigQuery_bounded source

theorem start_token {i : Nat} (inside : i < (sourceTokens source).tokens.length) :
    (start .bigQuery source).1.token i = (sourceTokens source).tokens[i] :=
  ParserInput.token_eq inside

theorem start_clean {source : Text.Bytes} (clean : (sourceTokens source).errors = []) :
    (start .bigQuery source).2 = {} :=
  congrArg (fun errors : List LexicalError => ({ errors := errors.map .lexical } : ParserState)) clean

end Parser

namespace Script

variable {source : Text.Bytes}

def outcome (comments : List Comment) (queries : List Query) (s : ParserState) :
    ParseResult Script :=
  match s.errors with
  | [] => .accepted ⟨queries, comments⟩ s.recovered.head?
  | error :: _ => .rejected error

theorem parse_run (source : Text.Bytes) : ∃ n bound queries s,
    repeated (nextStatement (Grammar.level n)) bound (start .bigQuery source).1
      (start .bigQuery source).2 = some (queries, s) ∧
    Script.parse .bigQuery source = outcome (sourceTokens source).comments queries s := by
  have formed := start_formed source
  obtain ⟨queries, s, run, -, -⟩ :=
    statements_yields formed (Grammar.ofInput_sound formed) (start_inside formed)
  obtain ⟨bound, _, read, rest⟩ := bind_eq_some run
  cases read
  refine ⟨_, _, queries, s, rest, ?_⟩
  rw [Script.parse]
  dsimp only
  rw [run, Parser.result, outcome]
  cases s.errors <;> rfl

theorem parse_of_lexical {error : LexicalError} {others : List LexicalError}
    (noted : (sourceTokens source).errors = error :: others) :
    Script.parse .bigQuery source = .rejected (.lexical error) := by
  obtain ⟨n, bound, queries, s, run, parsed⟩ := parse_run source
  have errors : (start .bigQuery source).2.errors = .lexical error :: others.map .lexical :=
    congrArg (List.map SyntaxError.lexical) noted
  have failed : (start .bigQuery source).2.errors ≠ [] := by rw [errors]; nofun
  obtain _ | bound := bound
  · cases run
  obtain ⟨found, t, read, run⟩ := bind_eq_some run
  rw [nextStatement_of_failed failed] at read
  cases read
  cases run
  rw [parsed, outcome, errors]

end Script

end QueryLint
