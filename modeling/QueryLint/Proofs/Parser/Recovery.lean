import QueryLint.Proofs.Parser.Operators
import QueryLint.Proofs.Parser.Termination
import QueryLint.Proofs.Syntax.Relocated

/-!
Definitions whose query cannot be read. A definition is written as a name, maybe a list of columns,
`AS`, and a query in parentheses. If the query cannot be read, nothing of the attempt remains but what
it noted, which is set aside: the definition is complete without a query, and reading goes on right
behind the parenthesis that closes its own, wherever the attempt had stopped.
-/

namespace QueryLint

open QueryLint.Parser

/-! ### Closing parentheses -/

theorem Token.closingOffset_balanced {depth : Nat} {tokens rest : List Token} {closing : Token}
    (opened : openAfter depth tokens = some 0) (closes : closing.kind = Symbol.rightParen) :
    closingOffset (depth + 1) (tokens ++ closing :: rest) = some tokens.length := by
  induction tokens generalizing depth with
  | nil =>
    cases opened
    exact closingOffset_rightParen_one closes
  | cons token tokens ih =>
    rw [List.cons_append]
    obtain ⟨opens, opened⟩ | ⟨outer, right, rfl, opened⟩ | ⟨plain, opened⟩ := openAfter_cases opened
    · rw [closingOffset_leftParen opens, ih opened]
      rfl
    · have opened : openAfter outer tokens = some 0 := by simpa only [openAfter, right] using opened
      rw [closingOffset_rightParen right (Nat.le_add_left 1 outer), ih opened]
      rfl
    · rw [closingOffset_plain plain, ih opened]
      rfl

theorem ParserInput.Matching.closing? {input : ParserInput} {opening closing : Nat}
    (matching : input.Matching opening closing) : input.closing? opening = some closing := by
  obtain ⟨before, inside, opens, closes, balanced⟩ := matching
  have split : input.rest (opening + 1) =
      (input.rest (opening + 1)).take (closing - (opening + 1)) ++
        input.token closing :: input.rest (closing + 1) := by
    have behind : (input.rest (opening + 1)).drop (closing - (opening + 1)) = input.rest closing := by
      rw [rest, rest, List.drop_drop, Nat.add_sub_cancel' before]
    rw [← rest_eq_cons inside, ← behind, List.take_append_drop]
  have length : ((input.rest (opening + 1)).take (closing - (opening + 1))).length =
      closing - (opening + 1) := by
    simp only [rest, List.length_take, List.length_drop, Array.length_toList]
    omega
  rw [ParserInput.closing?, rest_eq_cons (Nat.lt_trans before inside),
    Token.closingOffset_leftParen opens, split, Token.closingOffset_balanced balanced closes, length,
    Option.map_some, Option.map_some]
  exact congrArg some (by omega)

/-! ### Definitions as they are written -/

namespace ParserInput

variable (input : ParserInput)

/-- Names with commas between them stand from an index up to another one. -/
inductive NameList : Nat → List String → Nat → Prop
  | last {i : Nat} (word : (input.token i).isWord = true) : NameList i [(input.token i).text] (i + 1)
  | more {i j : Nat} {names : List String} (word : (input.token i).isWord = true)
      (comma : (input.token (i + 1)).kind = Symbol.comma) (others : NameList (i + 2) names j) :
      NameList i ((input.token i).text :: names) j

/-- A list of columns stands from an index up to another one: names in parentheses, or nothing. -/
inductive Columns : Nat → List String → Nat → Prop
  | unlisted (i : Nat) : Columns i [] i
  | listed {i j : Nat} {names : List String} (opens : (input.token i).kind = Symbol.leftParen)
      (between : input.NameList (i + 1) names j) (closes : (input.token j).kind = Symbol.rightParen) :
      Columns i names (j + 1)

/-- A definition stands at an index: a name, a list of columns, `AS`, and behind it parentheses that
belong together. -/
structure Defines (start : Nat) (columns : List String) (place closing : Nat) : Prop where
  named : (input.token start).isWord = true
  listed : input.Columns (start + 1) columns place
  defined : (input.token place).kind = Keyword.AS
  matching : input.Matching (place + 1) closing

variable {input} {i j : Nat} {names columns : List String}

theorem NameList.lt (listed : input.NameList i names j) : i < j := by
  induction listed with
  | last => exact Nat.lt_succ_self _
  | more _ _ _ ih => omega

theorem Columns.le (listed : input.Columns i columns j) : i ≤ j := by
  cases listed with
  | unlisted => exact Nat.le_refl _
  | listed _ names => exact Nat.le_succ_of_le (Nat.le_of_succ_le (Nat.le_of_lt names.lt))

end ParserInput

/-! ### What is read before the query -/

section Reading

variable {input : ParserInput} {s : ParserState} {names columns : List String} {i j : Nat}

theorem Attempt.names_ok (listed : input.NameList i names j) (inside : j < input.tokens.size)
    (ended : (input.token j).kind ≠ Symbol.comma) {bound : Nat} (enough : j - i ≤ bound) :
    (commaSeparatedWithin identifier bound).run input (s.moved i) = some (.ok names, s.moved j) := by
  have before := listed.lt
  obtain ⟨bound, rfl⟩ : ∃ n, bound = n + 1 := ⟨bound - 1, by omega⟩
  induction listed generalizing bound with
  | last word =>
    rw [commaSeparatedWithin, bind_ok (identifier_ok inside word),
      bind_ok (lift_ok (accept_at_other ended)), if_neg Bool.false_ne_true]
    rfl
  | @more i j names word comma others ih =>
    have behind := others.lt
    obtain ⟨bound, rfl⟩ : ∃ n, bound = n + 1 := ⟨bound - 1, by omega⟩
    rw [commaSeparatedWithin, bind_ok (identifier_ok (by omega) word),
      bind_ok (lift_ok (accept_at (by omega) comma)), if_pos rfl,
      bind_ok (ih inside ended behind bound (by omega))]
    rfl

theorem Grammar.cteColumns_at (listed : input.Columns i columns j) (inside : j < input.tokens.size)
    (unopened : (input.token j).kind ≠ Symbol.leftParen) :
    cteColumns input (s.moved i) = some (some columns, s.moved j) := by
  cases listed with
  | unlisted =>
    rw [cteColumns, bind_eq (accept_at_other unopened), if_neg Bool.false_ne_true]
    rfl
  | @listed j _ opens between closes =>
    have before := between.lt
    have ended : (input.token j).kind ≠ Symbol.comma := by rw [closes]; decide
    have counted : remaining input (s.moved (i + 1)) =
        some (input.tokens.size - (i + 1), s.moved (i + 1)) := rfl
    have read : (Attempt.commaSeparated Attempt.identifier).run input (s.moved (i + 1)) =
        some (.ok columns, s.moved j) := by
      rw [Attempt.commaSeparated, Attempt.bind_ok (Attempt.lift_ok counted)]
      exact Attempt.names_ok between (by omega) ended (by omega)
    rw [cteColumns, bind_eq (accept_at (by omega) opens), if_pos rfl, bind_eq (Attempt.orNote_ok read)]
    dsimp only
    rw [bind_eq (expect_at inside closes), if_pos rfl]
    rfl

end Reading

/-! ### What is read of the query -/

namespace Grammar

/-- The attempt to read the query of a definition: the query, and the closing parenthesis where no
error was noted before it. -/
def definedQuery (grammar : Grammar) : Parser Query := do
  let mark ← mark
  let query ← grammar.query
  when (!(← failedSince mark)) (discard <| expect Symbol.rightParen)
  return query

variable {input : ParserInput} {grammar : Grammar} {s t : ParserState} {query : Query}
  {columns : List String} {start place closing : Nat}

theorem cteQuery_at (opens : (input.token place).kind = Symbol.leftParen)
    (more : place + 1 < input.tokens.size)
    (run : grammar.definedQuery input (s.moved (place + 1)) = some (query, t)) :
    grammar.cteQuery input (s.moved place) =
      if s.errors.length < t.errors.length then skipQuery place s.errors.length query input t
      else some ((some query, true), t) := by
  have marked : mark input (s.moved (place + 1)) = some (s.errors.length, s.moved (place + 1)) := rfl
  rw [definedQuery, bind_eq marked] at run
  obtain ⟨query', t₁, read, run⟩ := bind_eq_some run
  obtain ⟨failed, t₂, looked, run⟩ := bind_eq_some run
  obtain ⟨_, t₃, closed, ⟨⟩⟩ := bind_eq_some run
  rw [cteQuery, bind_eq index_at, bind_eq (expect_at more opens), Bool.not_true,
    if_neg Bool.false_ne_true, bind_eq marked, bind_eq read, bind_eq looked, bind_eq closed,
    bind_eq (failedSince_eq _)]
  by_cases noted : s.errors.length < t.errors.length
  · rw [if_pos (decide_eq_true noted), if_pos noted]
  · rw [if_neg (by simpa using noted), if_neg noted]
    rfl

/-- What a definition comes to when its query was read or skipped. -/
theorem cte_at (written : input.Defines start columns place closing)
    {answer : Option Query} {j : Nat} (after : start < j)
    (run : grammar.cteQuery input (s.moved (place + 1)) = some ((answer, true), t)) (here : t.index = j) :
    grammar.cte input (s.moved start) =
      some (⟨input.cover start j, (input.token start).text, (input.token start).span, columns, answer⟩,
        t) := by
  obtain ⟨named, listed, defined, before, inside, -, -, -⟩ := written
  have behind := listed.le
  have unopened : (input.token place).kind ≠ Symbol.leftParen := by rw [defined]; decide
  have spanned : spanFrom (input.token start).span.start input t = some (input.cover start j, t) := by
    rw [spanFrom, bind_eq (rfl : previousEnd input t = some (_, t)), here, if_neg (by omega)]
    rfl
  rw [cte, bind_eq current_at, named, Bool.not_true]
  dsimp only
  rw [if_neg Bool.false_ne_true, bind_eq (advance_at (by omega)),
    bind_eq (cteColumns_at listed (by omega) unopened)]
  dsimp only
  rw [bind_eq (expect_at (by omega) defined), Bool.not_true, if_neg Bool.false_ne_true, bind_eq run]
  dsimp only
  rw [if_pos rfl, bind_eq spanned]
  rfl

variable (formed : input.WellFormed)

include formed

theorem definedQuery_gives {lo : Nat} (sound : grammar.Sound input lo) (after : lo ≤ s.index)
    (inside : s.index < input.tokens.size) : Gives input s grammar.definedQuery fun _ _ => True := by
  refine .look rfl ((sound.query s after inside).bind fun query t _ inside => .look rfl ?_)
  refine (Gives.when inside (expect_gives formed inside).discard _).bind fun _ _ _ inside => ?_
  exact .pure inside fun _ _ _ _ => trivial

/-- A query that cannot be read leaves a definition without one. -/
theorem cte_recovers (written : input.Defines start columns place closing)
    (run : grammar.definedQuery input (s.moved (place + 2)) = some (query, t))
    (kept : s.errors <+: t.errors) (failed : s.errors.length < t.errors.length) :
    grammar.cte input (s.moved start) =
      some (⟨input.cover start (closing + 1), (input.token start).text, (input.token start).span,
          columns, none⟩,
        ⟨closing + 1, s.errors, t.recovered ++ t.errors.drop s.errors.length⟩) := by
  have matching := written.matching
  have before := matching.before
  have behind := written.listed.le
  have more := formed.more matching.inside matching.closes (by decide)
  refine cte_at written (by omega) ?_ rfl
  rw [cteQuery_at matching.opens (by have := matching.inside; omega) run, if_pos failed,
    skipQuery_eq query matching.closing?, Nat.min_eq_left (by omega),
    ← List.prefix_iff_eq_take.1 kept]

omit formed in
/-- A query that was read to its parenthesis is that of the definition. -/
theorem cte_reads (written : input.Defines start columns place closing)
    (run : grammar.definedQuery input (s.moved (place + 2)) = some (query, t))
    (forward : place + 2 ≤ t.index) (clean : t.errors = s.errors) :
    grammar.cte input (s.moved start) =
      some (⟨input.cover start t.index, (input.token start).text, (input.token start).span, columns,
        some query⟩, t) := by
  have matching := written.matching
  have behind := written.listed.le
  refine cte_at written (by omega) ?_ rfl
  rw [cteQuery_at matching.opens (by have := matching.before; have := matching.inside; omega) run,
    if_neg (by simp [clean])]

end Grammar

/-! ### Other queries in the same place -/

/-- Two inputs are the same, up to the places of their tokens, up to a parenthesis and behind the ones
that close it. -/
structure ParserInput.SameAround (first second : ParserInput) (opening closing closing' : Nat) :
    Prop where
  before : ∀ i ≤ opening, bare (second.token i) = bare (first.token i)
  behind : ∀ k, bare (second.token (closing' + k)) = bare (first.token (closing + k))

namespace ParserInput

variable {first second : ParserInput} {start place closing closing' i j : Nat}
  {names columns : List String}

theorem kind_of_bare {token token' : Token} (same : bare token' = bare token) :
    token'.kind = token.kind := by
  have kinds := congrArg Token.kind same
  exact kinds

theorem text_of_bare {token token' : Token} (same : bare token' = bare token) :
    token'.text = token.text := by
  have texts := congrArg Token.text same
  exact texts

theorem isWord_of_bare {token token' : Token} (same : bare token' = bare token) :
    token'.isWord = token.isWord := by
  have words := congrArg Token.isWord same
  exact words

theorem NameList.transfer (listed : first.NameList i names j)
    (same : ∀ k < j, bare (second.token k) = bare (first.token k)) : second.NameList i names j := by
  induction listed with
  | @last i word =>
    have here := same i (Nat.lt_succ_self i)
    rw [← text_of_bare here]
    exact .last (isWord_of_bare here ▸ word)
  | @more i j names word comma others ih =>
    have before := others.lt
    have here := same i (by omega)
    rw [← text_of_bare here]
    exact .more (isWord_of_bare here ▸ word) (kind_of_bare (same (i + 1) (by omega)) ▸ comma) (ih same)

theorem Columns.transfer (listed : first.Columns i columns j)
    (same : ∀ k < j, bare (second.token k) = bare (first.token k)) : second.Columns i columns j := by
  cases listed with
  | unlisted => exact .unlisted i
  | @listed j _ opens between closes =>
    have before := between.lt
    exact .listed (kind_of_bare (same i (by omega)) ▸ opens)
      (between.transfer fun k early => same k (Nat.lt_succ_of_lt early))
      (kind_of_bare (same j (Nat.lt_succ_self j)) ▸ closes)

/-- With another query in its parentheses a definition is still one. -/
theorem Defines.transfer (written : first.Defines start columns place closing)
    (same : first.SameAround second (place + 1) closing closing')
    (matching : second.Matching (place + 1) closing') :
    second.Defines start columns place closing' where
  named := by
    have behind := written.listed.le
    exact isWord_of_bare (same.before start (by omega)) ▸ written.named
  listed := written.listed.transfer fun k early => same.before k (by omega)
  defined := kind_of_bare (same.before place (Nat.le_succ _)) ▸ written.defined
  matching := matching

end ParserInput

/-! ### Recovery -/

namespace Grammar

/-- A definition takes what was read in its parentheses, or recovers. The attempt to read its query
answers. If it notes no error, the query is that of the definition and reading goes on where the attempt
ended. Otherwise the definition has no query, the errors are those before it, what the attempt noted is
set aside, and reading goes on right behind the parenthesis that closes its own, wherever the attempt
ended; and with any other balanced tokens in the parentheses that cannot be read as its query either,
the definition is the same up to places and reading goes on behind them with the same errors. -/
theorem definition_isolated (source : Text.Bytes) (s : ParserState) {n start place closing : Nat}
    {columns : List String}
    (written : (Parser.start .bigQuery source).1.Defines start columns place closing)
    (deep : (Parser.start .bigQuery source).1.tokens.size ≤ n + (place + 2)) :
    let input := (Parser.start .bigQuery source).1
    ∃ query t, (level n).definedQuery input (s.moved (place + 2)) = some (query, t) ∧
      s.errors <+: t.errors ∧ s.recovered <+: t.recovered ∧
      (t.errors = s.errors → (level n).cte input (s.moved start) =
        some (⟨input.cover start t.index, (input.token start).text, (input.token start).span, columns,
          some query⟩, t)) ∧
      (t.errors ≠ s.errors → ∃ cte,
        (level n).cte input (s.moved start) =
          some (cte, ⟨closing + 1, s.errors, t.recovered ++ t.errors.drop s.errors.length⟩) ∧
        cte = ⟨input.cover start (closing + 1), (input.token start).text, (input.token start).span,
          columns, none⟩ ∧
        ∀ (source' : Text.Bytes) (n' closing' : Nat),
          let input' := (Parser.start .bigQuery source').1
          input'.tokens.size ≤ n' + (place + 2) →
          input.SameAround input' (place + 1) closing closing' →
          input'.Matching (place + 1) closing' →
          ∃ query' t', (level n').definedQuery input' (s.moved (place + 2)) = some (query', t') ∧
            (t'.errors ≠ s.errors → ∃ cte',
              (level n').cte input' (s.moved start) = some (cte',
                ⟨closing' + 1, s.errors, t'.recovered ++ t'.errors.drop s.errors.length⟩) ∧
              bare cte' = bare cte)) := by
  intro input
  have formed (source : Text.Bytes) : (Parser.start .bigQuery source).1.WellFormed :=
    start_wellFormed Dialect.bigQuery_proper Dialect.bigQuery_bounded source
  -- the attempt from behind the opening parenthesis, in any source
  have attempted (source : Text.Bytes) {n closing : Nat}
      (deep : (Parser.start .bigQuery source).1.tokens.size ≤ n + (place + 2))
      (matching : (Parser.start .bigQuery source).1.Matching (place + 1) closing) :
      Gives (Parser.start .bigQuery source).1 (s.moved (place + 2)) (level n).definedQuery
        fun _ _ => True := by
    have before := matching.before
    have inside := matching.inside
    refine definedQuery_gives (formed source) (level_sound (formed source) n) ?_ ?_
    · exact Nat.sub_le_iff_le_add'.2 deep
    · exact Nat.lt_of_le_of_lt before inside
  have longer {t : ParserState} (kept : s.errors <+: t.errors) (noted : t.errors ≠ s.errors) :
      s.errors.length < t.errors.length :=
    Nat.lt_of_le_of_ne kept.length_le fun same => noted (kept.eq_of_length same).symm
  obtain ⟨query, t, run, moves, -⟩ := attempted source deep written.matching
  refine ⟨query, t, run, moves.noted, moves.skipped, fun clean => ?_, fun noted => ?_⟩
  · exact cte_reads written run moves.forward clean
  · refine ⟨_, cte_recovers (formed source) written run moves.noted (longer moves.noted noted), rfl,
      ?_⟩
    intro source' n' closing' input' deep' same matching'
    obtain ⟨query', t', run', moves', -⟩ := attempted source' deep' matching'
    refine ⟨query', t', run', fun noted' => ⟨_, cte_recovers (formed source')
      (written.transfer same matching') run' moves'.noted (longer moves'.noted noted'), ?_⟩⟩
    have named : (input'.token start).text = (input.token start).text := by
      have behind := written.listed.le
      exact ParserInput.text_of_bare (same.before start (by omega))
    rw [named]
    rfl

/-- A definition whose query cannot be read, and the same one with another such query. -/
theorem malformed_definitions_isolated :
    let input := (Parser.start .bigQuery (Text.encode "WITH a AS (x (y)) SELECT 2")).1
    let input' := (Parser.start .bigQuery (Text.encode "WITH a AS (1) SELECT 2")).1
    ∃ cte cte' t t', (level 12).cte input (({} : ParserState).moved 1) = some (cte, t) ∧
      (level 12).cte input' (({} : ParserState).moved 1) = some (cte', t') ∧
      cte.query = none ∧ bare cte' = bare cte ∧ t.index = 9 ∧ t'.index = 6 ∧
      t.errors = [] ∧ t'.errors = [] := by
  intro input input'
  obtain ⟨size, named, defined, opens, closes, balanced⟩ :
      input.tokens.size = 12 ∧ (input.token 1).isWord = true ∧
      (input.token 2).kind = Keyword.AS ∧ (input.token 3).kind = Symbol.leftParen ∧
      (input.token 8).kind = Symbol.rightParen ∧
      Token.Balanced ((input.rest 4).take 4) := by decide +kernel
  obtain ⟨size', opens', closes', balanced'⟩ :
      input'.tokens.size = 9 ∧ (input'.token 3).kind = Symbol.leftParen ∧
      (input'.token 5).kind = Symbol.rightParen ∧
      Token.Balanced ((input'.rest 4).take 1) := by decide +kernel
  obtain ⟨before, near⟩ : (∀ i ≤ 3, bare (input'.token i) = bare (input.token i)) ∧
      ∀ k < 4, bare (input'.token (5 + k)) = bare (input.token (8 + k)) := by decide +kernel
  have written : input.Defines 1 [] 2 8 :=
    ⟨named, .unlisted 2, defined, by decide, by omega, opens, closes, balanced⟩
  have matching : input'.Matching 3 5 := ⟨by decide, by omega, opens', closes', balanced'⟩
  have same : input.SameAround input' 3 8 5 := by
    refine ⟨before, fun k => ?_⟩
    by_cases inside : k < 4
    · exact near k inside
    · rw [ParserInput.token_of_le (show input.tokens.size ≤ 8 + k by omega),
        ParserInput.token_of_le (show input'.tokens.size ≤ 5 + k by omega), size, size']
      exact near 3 (by decide)
  have failed : ((level 12).definedQuery input (({} : ParserState).moved 4)).any
      (fun answer => !answer.2.errors.isEmpty) = true := by decide +kernel
  have failed' : ((level 12).definedQuery input' (({} : ParserState).moved 4)).any
      (fun answer => !answer.2.errors.isEmpty) = true := by decide +kernel
  obtain ⟨query, t, run, -, -, -, recovers⟩ :=
    definition_isolated (Text.encode "WITH a AS (x (y)) SELECT 2") {} written
      (Nat.le_trans (Nat.le_of_eq size) (show 12 ≤ 12 + (2 + 2) by decide))
  rw [run] at failed
  obtain ⟨cte, read, rfl, isolated⟩ := recovers (by simpa using failed)
  obtain ⟨query', t', run', recovers'⟩ := isolated (Text.encode "WITH a AS (1) SELECT 2") 12 5
    (Nat.le_trans (Nat.le_of_eq size') (show 9 ≤ 12 + (2 + 2) by decide)) same matching
  rw [run'] at failed'
  obtain ⟨cte', read', alike⟩ := recovers' (by simpa using failed')
  exact ⟨_, cte', _, _, read, read', rfl, alike, rfl, rfl, rfl, rfl⟩

end Grammar

end QueryLint
