import QueryLint.Proofs.Parser.Operators

/-!
Operators are read as precedence says. A term that respects precedence drives the loop over
operators through its left operands to the loop that holds the whole term; there the token after
the term ends the loop, since it binds more loosely than every operator whose right operand ends
here.
-/

namespace QueryLint

open QueryLint.Parser

/-! ### Ends -/

theorem UnaryOperator.level_range (operator : UnaryOperator) :
    Precedence.none < operator.level ∧ operator.level < Precedence.postfixed := by
  cases operator <;> decide

theorem BinaryOperator.level_range (operator : BinaryOperator) :
    Precedence.none < operator.level ∧ operator.level < Precedence.postfixed := by
  cases operator <;> decide

theorem Precedence.comparison_lt_postfixed : Precedence.comparison < Precedence.postfixed := by
  decide

theorem Term.none_lt_level (term : Term) : Precedence.none < term.level := by
  cases term with
  | unary operator => exact operator.level_range.1
  | binary _ operator => exact operator.level_range.1
  | _ =>
    simp only [level]
    decide

namespace Term.EndsBefore

variable {term inner : Term} {kind : TokenKind}

theorem intro (other : kind ≠ Symbol.leftParen ∧ kind ≠ .string ∧ kind ≠ Symbol.dot)
    (level : kind.followLevel ≤ term.level) : term.EndsBefore kind :=
  ⟨other.1, other.2.1, level, fun _ => other.2.2⟩

theorem closing (other : kind ≠ Symbol.leftParen ∧ kind ≠ .string ∧ kind ≠ Symbol.dot)
    (level : kind.followLevel = Precedence.none) : term.EndsBefore kind :=
  intro other (level ▸ Int.le_of_lt term.none_lt_level)

theorem last (ends : term.EndsBefore kind) (below : term.level < Precedence.postfixed)
    (tighter : term.level ≤ inner.level) : inner.EndsBefore kind where
  notCalled := ends.notCalled
  notTyped := ends.notTyped
  level := Int.le_trans ends.level tighter
  notDotted _ dot := by
    subst dot
    exact Int.not_lt.2 ends.level below

end Term.EndsBefore

theorem NegationAt.endsBefore {input : ParserInput} {term : Term} {negated : Bool} {m n : Nat}
    {keyword : Keyword} (negation : NegationAt input negated m n)
    (found : (input.token n).kind = keyword) (level : Precedence.comparison ≤ term.level)
    (comparison : (keyword : TokenKind).followLevel = .comparison) :
    term.EndsBefore (input.token m).kind := by
  have word : ∃ keyword : Keyword, (input.token m).kind = keyword ∧
      (keyword : TokenKind).followLevel = .comparison := by
    cases negated with
    | false =>
      obtain rfl : n = m := negation
      exact ⟨keyword, found, comparison⟩
    | true => exact ⟨.NOT, negation.1, rfl⟩
  obtain ⟨keyword, found, comparison⟩ := word
  rw [found]
  exact .intro ⟨by simp, by simp, by simp⟩ (comparison ▸ level)

namespace Grammar

variable {input : ParserInput}

/-! ### Terms -/

mutual

/-- Reading an expression comes to the loop that holds a term as a whole. An operator before an
operand is read in every context, all others only where they bind tighter than it. -/
theorem term_reaches (bigQuery : input.dialect = Dialect.bigQuery) {above : Precedence}
    {term : Term} {i j n : Nat} (respects : term.Respects) (spelt : term.At input i j)
    (inside : j < input.tokens.size) (ends : term.EndsBefore (input.token j).kind)
    (loose : Precedence.none ≤ above) (tight : above < term.level ∨ term.isUnary = true)
    (deep : j - i ≤ n) : Reaches input (level n) above term i j := by
  have forward := spelt.lt
  obtain ⟨n, rfl⟩ : ∃ k, n = k + 1 := ⟨n - 1, by omega⟩
  cases term with
  | literal => exact (literal_reads bigQuery spelt inside).reaches
  | typed => exact (typed_reads bigQuery spelt inside).reaches
  | column => exact (column_reads bigQuery spelt inside ends).reaches
  | paren inner =>
    have respects : inner.Respects := respects
    obtain ⟨m, opens, spelt, closes, rfl⟩ := spelt
    have kept : inner.EndsBefore (input.token m).kind := by
      rw [closes]
      exact .closing (by decide) rfl
    have reaches := term_reaches bigQuery respects spelt (by omega) kept (Int.le_refl _)
      (.inl inner.none_lt_level) (show m - (i + 1) ≤ n by omega)
    have reads := reaches.reads bigQuery (by rw [closes]; decide)
    exact (paren_reads bigQuery opens spelt closes inside reads).reaches
  | unary operator operand =>
    obtain ⟨respects, tighter⟩ := respects
    obtain ⟨found, spelt⟩ := spelt
    have later := spelt.lt
    have kept : operand.EndsBefore (input.token j).kind :=
      ends.last operator.level_range.2 (tighter.elim Int.le_of_lt fun same => Int.le_of_eq same.2.symm)
    have reaches := term_reaches bigQuery respects spelt inside kept
      (Int.le_of_lt operator.level_range.1) (tighter.imp_right And.left)
      (show j - (i + 1) ≤ n by omega)
    exact (unary_reads bigQuery found (by omega) (reaches.reads bigQuery ends.level)).reaches
  | binary left operator right =>
    obtain ⟨respectsLeft, respectsRight, levelLeft, levelRight⟩ := respects
    obtain ⟨m, speltLeft, found, speltRight⟩ := spelt
    have forward := speltLeft.lt
    have later := speltRight.lt
    have tight : above < operator.level := tight.resolve_right Bool.false_ne_true
    have kept : left.EndsBefore (input.token m).kind := by
      rw [found]
      exact .intro (by cases operator <;> decide) (by cases operator <;> exact levelLeft)
    have reaches := term_reaches bigQuery respectsRight speltRight inside
      (ends.last operator.level_range.2 (Int.le_of_lt levelRight))
      (Int.le_of_lt operator.level_range.1) (.inl levelRight) (show j - (m + 1) ≤ n by omega)
    refine (term_reaches bigQuery respectsLeft speltLeft (by omega) kept loose
      (.inl (Int.lt_of_lt_of_le tight levelLeft)) (by omega)).apply (by omega) inside
      fun s x denotes => ?_
    exact binary_applies bigQuery found (by omega) loose tight denotes
      (reaches.reads bigQuery ends.level)
  | isIn operand negated values =>
    obtain ⟨respects, level, respect⟩ := respects
    obtain ⟨m, k, l, spelt, negation, found, opens, speltValues, closes, rfl⟩ := spelt
    have forward := spelt.lt
    have between := negation.le
    have later := speltValues.lt
    have tight : above < Precedence.comparison := tight.resolve_right Bool.false_ne_true
    have reads : ReadsAll input (Grammar.level (n + 1)).expressions values (k + 2) l := fun s =>
      terms_read bigQuery respect speltValues (by omega) closes (by omega) s (Nat.lt_succ_self _)
    refine (term_reaches bigQuery respects spelt (by omega) (negation.endsBefore found level rfl)
      loose (.inl (Int.lt_of_lt_of_le tight level)) (by omega)).apply (by omega) inside
      fun s x denotes => ?_
    exact isIn_applies bigQuery negation found opens speltValues closes inside loose tight denotes
      reads
  | like operand negated pattern =>
    obtain ⟨respects, respectsPattern, level, levelPattern⟩ := respects
    obtain ⟨m, k, spelt, negation, found, speltPattern⟩ := spelt
    have forward := spelt.lt
    have between := negation.le
    have later := speltPattern.lt
    have tight : above < Precedence.comparison := tight.resolve_right Bool.false_ne_true
    have reaches := term_reaches bigQuery respectsPattern speltPattern inside
      (ends.last Precedence.comparison_lt_postfixed (Int.le_of_lt levelPattern)) (by decide) (.inl levelPattern)
      (show j - (k + 1) ≤ n by omega)
    refine (term_reaches bigQuery respects spelt (by omega) (negation.endsBefore found level rfl)
      loose (.inl (Int.lt_of_lt_of_le tight level)) (by omega)).apply (by omega) inside
      fun s x denotes => ?_
    exact like_applies bigQuery negation found (by omega) loose tight denotes
      (reaches.reads bigQuery ends.level)
  | between operand negated low high =>
    obtain ⟨respects, respectsLow, respectsHigh, level, levelLow, levelHigh⟩ := respects
    obtain ⟨m, k, l, spelt, negation, found, speltLow, separates, speltHigh⟩ := spelt
    have forward := spelt.lt
    have between := negation.le
    have laterLow := speltLow.lt
    have laterHigh := speltHigh.lt
    have tight : above < Precedence.comparison := tight.resolve_right Bool.false_ne_true
    -- The word between the bounds binds more loosely than a bound may, so it is never read as one.
    have keptLow : low.EndsBefore (input.token l).kind := by
      rw [separates]
      exact .intro (by decide) (Int.le_trans (by decide) (Int.le_of_lt levelLow))
    have reachesLow := term_reaches bigQuery respectsLow speltLow (by omega) keptLow (by decide)
      (.inl levelLow) (show l - (k + 1) ≤ n by omega)
    have reachesHigh := term_reaches bigQuery respectsHigh speltHigh inside
      (ends.last Precedence.comparison_lt_postfixed (Int.le_of_lt levelHigh)) (by decide) (.inl levelHigh)
      (show j - (l + 1) ≤ n by omega)
    refine (term_reaches bigQuery respects spelt (by omega) (negation.endsBefore found level rfl)
      loose (.inl (Int.lt_of_lt_of_le tight level)) (by omega)).apply (by omega) inside
      fun s x denotes => ?_
    exact between_applies bigQuery negation found separates (by omega) (by omega) loose tight
      denotes (reachesLow.reads bigQuery (by rw [separates]; decide))
      (reachesHigh.reads bigQuery ends.level)
  | isNull operand negated =>
    obtain ⟨respects, level⟩ := respects
    obtain ⟨m, k, spelt, found, negation, null, rfl⟩ := spelt
    have forward := spelt.lt
    have between := negation.le
    have tight : above < Precedence.comparison := tight.resolve_right Bool.false_ne_true
    have kept : operand.EndsBefore (input.token m).kind := by
      rw [found]
      exact .intro (by decide) level
    refine (term_reaches bigQuery respects spelt (by omega) kept loose
      (.inl (Int.lt_of_lt_of_le tight level)) (by omega)).apply (by omega) inside
      fun s x denotes => ?_
    exact isNull_applies bigQuery found negation null inside loose tight denotes
  | isBool operand negated value =>
    obtain ⟨respects, level⟩ := respects
    obtain ⟨m, k, spelt, found, negation, truth, rfl⟩ := spelt
    have forward := spelt.lt
    have between := negation.le
    have tight : above < Precedence.comparison := tight.resolve_right Bool.false_ne_true
    have kept : operand.EndsBefore (input.token m).kind := by
      rw [found]
      exact .intro (by decide) level
    refine (term_reaches bigQuery respects spelt (by omega) kept loose
      (.inl (Int.lt_of_lt_of_le tight level)) (by omega)).apply (by omega) inside
      fun s x denotes => ?_
    exact isBool_applies bigQuery found negation truth inside loose tight denotes
  | index operand place =>
    obtain ⟨respects, respectsPlace, level⟩ := respects
    obtain ⟨m, k, spelt, opens, speltPlace, closes, rfl⟩ := spelt
    have forward := spelt.lt
    have later := speltPlace.lt
    have tight : above < Precedence.postfixed := tight.resolve_right Bool.false_ne_true
    have kept : operand.EndsBefore (input.token m).kind := by
      rw [opens]
      exact .intro (by decide) level
    have keptPlace : place.EndsBefore (input.token k).kind := by
      rw [closes]
      exact .closing (by decide) rfl
    have reaches := term_reaches bigQuery respectsPlace speltPlace (by omega) keptPlace
      (Int.le_refl _) (.inl place.none_lt_level) (show k - (m + 1) ≤ n by omega)
    refine (term_reaches bigQuery respects spelt (by omega) kept loose
      (.inl (Int.lt_of_lt_of_le tight level)) (by omega)).apply (by omega) inside
      fun s x denotes => ?_
    exact index_applies bigQuery opens later closes inside loose tight denotes
      (reaches.reads bigQuery (by rw [closes]; decide))
  | field operand name =>
    obtain ⟨respects, level, notColumn⟩ := respects
    obtain ⟨m, spelt, dot, word, text, rfl⟩ := spelt
    have forward := spelt.lt
    have tight : above < Precedence.postfixed := tight.resolve_right Bool.false_ne_true
    have kept : operand.EndsBefore (input.token m).kind := by
      rw [dot]
      exact ⟨by decide, by decide, level, fun isColumn => absurd isColumn (by simp [notColumn])⟩
    refine (term_reaches bigQuery respects spelt (by omega) kept loose
      (.inl (Int.lt_of_lt_of_le tight level)) (by omega)).apply (by omega) inside
      fun s x denotes => ?_
    exact field_applies dot word text inside tight denotes
termination_by structural term

theorem terms_read (bigQuery : input.dialect = Dialect.bigQuery) {terms : Terms} {i j n bound : Nat}
    (respect : terms.Respect) (spelt : terms.At input i j) (inside : j < input.tokens.size)
    (closes : (input.token j).kind = Symbol.rightParen) (deep : j - i ≤ n) (s : ParserState)
    (enough : input.tokens.size - i < bound) :
    ∃ list, chain ((level (n + 1)).element s.errors.length) bound input (s.moved i) =
      some (list, s.moved j) ∧ terms.Denote list := by
  obtain ⟨bound, rfl⟩ := Nat.exists_eq_add_one.2 (Nat.zero_lt_of_lt enough)
  cases terms with
  | one term =>
    have respects : term.Respects := respect
    have spelt : term.At input i j := spelt
    have kept : term.EndsBefore (input.token j).kind := by
      rw [closes]
      exact .closing (by decide) rfl
    have reaches := term_reaches bigQuery respects spelt inside kept (Int.le_refl _)
      (.inl term.none_lt_level) deep
    obtain ⟨e, run, denotes⟩ := reaches.reads bigQuery (by rw [closes]; decide) s
    have last : accept Symbol.comma input (s.moved j) = some (false, s.moved j) :=
      accept_at_other (by rw [closes]; decide)
    refine ⟨[e], ?_, e, rfl, denotes⟩
    rw [chain, bind_eq (element_at run last)]
    rfl
  | more term rest =>
    obtain ⟨respects, respect⟩ := respect
    obtain ⟨m, spelt, comma, speltRest⟩ := spelt
    have forward := spelt.lt
    have later := speltRest.lt
    have kept : term.EndsBefore (input.token m).kind := by
      rw [comma]
      exact .closing (by decide) rfl
    have reaches := term_reaches bigQuery respects spelt (by omega) kept (Int.le_refl _)
      (.inl term.none_lt_level) (show m - i ≤ n by omega)
    obtain ⟨e, run, denotes⟩ := reaches.reads bigQuery (by rw [comma]; decide) s
    obtain ⟨others, runRest, denote⟩ := terms_read bigQuery respect speltRest inside closes
      (show j - (m + 1) ≤ n by omega) s (show input.tokens.size - (m + 1) < bound by omega)
    refine ⟨e :: others, ?_, e, others, rfl, denotes, denote⟩
    rw [chain, bind_eq (element_at run (accept_at (by omega) comma))]
    dsimp only
    rw [if_pos rfl, bind_eq runRest]
    rfl
termination_by structural terms

end

/-- A term that respects precedence is what its tokens are read as, and nothing after it is read. -/
theorem expression_reads_term (bigQuery : input.dialect = Dialect.bigQuery) {term : Term}
    {s : ParserState} {j : Nat} (respects : term.Respects) (spelt : term.At input s.index j)
    (inside : j < input.tokens.size)
    (ends : (input.token j).kind.continuesExpression = false) :
    ∃ e, (ofInput input).expression input s = some (e, { s with index := j }) ∧ term.Denotes e := by
  simp only [TokenKind.continuesExpression, Bool.or_eq_false_iff, bne_eq_false_iff_eq,
    beq_eq_false_iff_ne] at ends
  obtain ⟨⟨level, notCalled⟩, notTyped⟩ := ends
  have notDotted : (input.token j).kind ≠ Symbol.dot := by
    intro dot
    rw [dot] at level
    exact absurd level (by decide)
  have reaches := term_reaches bigQuery respects spelt inside
    (.closing ⟨notCalled, notTyped, notDotted⟩ level) (Int.le_refl _) (.inl term.none_lt_level)
    (show j - s.index ≤ input.tokens.size + 1 by omega)
  exact reaches.reads bigQuery (Int.le_of_eq level) s

/-- `NOT a = 1 AND b NOT IN (2, 3)` negates the comparison on its left and the one on its right. -/
theorem expression_reads_negations :
    let input : ParserInput := ⟨#[{ kind := Keyword.NOT }, { kind := .identifier, literal := [97] },
      { kind := Symbol.equal }, { kind := .number, literal := [49] }, { kind := Keyword.AND },
      { kind := .identifier, literal := [98] }, { kind := Keyword.NOT }, { kind := Keyword.IN },
      { kind := Symbol.leftParen }, { kind := .number, literal := [50] }, { kind := Symbol.comma },
      { kind := .number, literal := [51] }, { kind := Symbol.rightParen },
      { kind := .endOfInput }], Dialect.bigQuery⟩
    ∃ e, (ofInput input).expression input {} = some (e, { index := 13 }) ∧
      (Term.binary
        (.unary .not (.binary (.column ["a"]) .equal (.literal .number "1"))) .and
        (.isIn (.column ["b"]) true
          (.more (.literal .number "2") (.one (.literal .number "3"))))).Denotes e := by
  intro input
  have number (i : Nat) (value : String) (found : (input.token i).kind = .number)
      (text : (input.token i).text = value) :
      (Term.literal .number value).At input i (i + 1) := ⟨found, text, rfl⟩
  have name (i : Nat) (name : String) (found : (input.token i).kind = .identifier)
      (named : (PathSegment.ofToken (input.token i)).map (·.name) = [name]) :
      (Term.column [name]).At input i (i + 1) := ⟨found ▸ rfl, named ▸ .last i⟩
  have left : (Term.unary .not (.binary (.column ["a"]) .equal (.literal .number "1"))).At
      input 0 4 :=
    ⟨rfl, 2, name 1 "a" rfl (by decide +kernel), rfl, number 3 "1" rfl (by decide +kernel)⟩
  have values : (Terms.more (.literal .number "2") (.one (.literal .number "3"))).At input 9 12 :=
    ⟨10, number 9 "2" rfl (by decide +kernel), rfl, number 11 "3" rfl (by decide +kernel)⟩
  have right : (Term.isIn (.column ["b"]) true
      (.more (.literal .number "2") (.one (.literal .number "3")))).At input 5 13 :=
    ⟨6, 7, 12, name 5 "b" rfl (by decide +kernel), ⟨rfl, rfl⟩, rfl, rfl, values, rfl, rfl⟩
  refine expression_reads_term rfl ?_ ⟨4, left, rfl, right⟩ (by decide) (by decide)
  simp only [Term.Respects, Terms.Respect]
  decide

end Grammar

end QueryLint
