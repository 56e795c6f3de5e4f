import QueryLint.Proofs.Parser.Lockstep.Expressions

/-!
Sources of rows are read side by side. Whether a dash belongs to a table path depends on whether tokens
touch: the segment that is read ends where a token of the excerpt ends, and that token touches the dash
in both inputs or in none.
-/

namespace QueryLint

open QueryLint.Parser

/-! ### Paths -/

theorem PathSegment.span_of_ofToken_append {token : Token} {others rest : List PathSegment}
    {first : PathSegment} (same : ofToken token ++ others = first :: rest) :
    first.span = token.span := by
  have all : ∀ segment ∈ ofToken token, segment.span = token.span := by
    intro segment member
    unfold ofToken at member
    split at member
    · obtain ⟨name, _, rfl⟩ := List.mem_map.1 member
      rfl
    · rw [List.mem_singleton.1 member]
  obtain ⟨head, tail, split⟩ := List.exists_cons_of_ne_nil (ofToken_ne_nil token)
  rw [split] at same all
  obtain ⟨rfl, _⟩ := List.cons.inj same
  exact all _ List.mem_cons_self

namespace Parser

theorem le_following (input : ParserInput) (i : Nat) : i ≤ input.following i := by
  unfold ParserInput.following
  split <;> omega

theorem pathWithin_cons {input : ParserInput} {bound : Nat} {s t : ParserState} {first : PathSegment}
    {others : List PathSegment} (run : pathWithin bound input s = some (first :: others, t)) :
    first.span = (input.token s.index).span ∧ input.following s.index ≤ t.index := by
  have forward : ∀ bound s path t, pathWithin bound input s = some (path, t) →
      input.following s.index ≤ t.index := by
    intro bound
    induction bound with
    | zero => nofun
    | succ bound ih =>
      intro s path t run
      obtain ⟨_, _, ⟨⟩, run⟩ := bind_eq_some run
      obtain ⟨_, _, ⟨⟩, run⟩ := bind_eq_some run
      obtain ⟨_, _, ⟨⟩, run⟩ := bind_eq_some run
      obtain ⟨_, _, ⟨⟩, run⟩ := bind_eq_some run
      split at run
      · obtain ⟨_, _, ⟨⟩, run⟩ := bind_eq_some run
        obtain ⟨others, _, read, ⟨⟩⟩ := bind_eq_some run
        have further := ih _ _ _ read
        exact Nat.le_trans (le_following _ _) (Nat.le_trans (le_following _ _) further)
      · cases run
        exact Nat.le_refl _
  refine ⟨?_, forward bound s _ t run⟩
  cases bound with
  | zero => cases run
  | succ bound =>
    obtain ⟨_, _, ⟨⟩, run⟩ := bind_eq_some run
    obtain ⟨_, _, ⟨⟩, run⟩ := bind_eq_some run
    obtain ⟨_, _, ⟨⟩, run⟩ := bind_eq_some run
    obtain ⟨_, _, ⟨⟩, run⟩ := bind_eq_some run
    split at run
    · obtain ⟨_, _, ⟨⟩, run⟩ := bind_eq_some run
      obtain ⟨others, _, _, run⟩ := bind_eq_some run
      exact PathSegment.span_of_ofToken_append (congrArg Prod.fst (Option.some.inj run))
    · have same := congrArg Prod.fst (Option.some.inj run)
      rw [← List.append_nil (PathSegment.ofToken _)] at same
      exact PathSegment.span_of_ofToken_append same

end Parser

theorem Dialect.bigQuery_join_optional {kind word : TokenKind} {rule : JoinRule}
    (found : bigQuery.join? kind = some rule) (optional : rule.optional = some word) :
    word = Keyword.OUTER := by
  have outer : ∀ join ∈ bigQuery.joins,
      join.2.optional.all (· == TokenKind.keyword .OUTER) = true := by decide
  obtain ⟨before, behind, split, _⟩ := List.lookup_eq_some_iff.1 found
  have known := outer (kind, rule) (by rw [split]; simp)
  rw [optional] at known
  exact beq_iff_eq.1 known

theorem TableRef.eq_missing_of_relocate {source : TableRef} {place : Position → Position}
    (missing : source.relocate place = .missing) : source = .missing := by
  cases source with
  | missing => rfl
  | _ => cases missing

namespace Grammar

variable {x : Excerpt} {s s' t u : ParserState}

/-! ### Dashes -/

def continuesSegment (input : ParserInput) (s : ParserState) (segment : PathSegment) : Bool :=
  let dash := input.token s.index
  let next := input.token (s.index + 1)
  dash.kind == Symbol.minus && dash.span.start.offset == segment.span.stop.offset &&
    next.span.start.offset == dash.span.stop.offset &&
    (next.kind == .identifier || next.kind == .number)

def extendSegment (segment : PathSegment) (next : Token) : PathSegment :=
  { segment with
    name := segment.name ++ "-" ++ next.text
    span := { segment.span with stop := next.span.stop } }

theorem dashed_cases {input : ParserInput} {bound : Nat} {segment result : PathSegment}
    (run : dashed (bound + 1) segment input s = some (result, t)) :
    (continuesSegment input s segment = false ∧ t = s ∧ result = segment) ∨
      (continuesSegment input s segment = true ∧
        dashed bound (extendSegment segment (input.token (s.index + 1))) input
          { s with index := input.following (input.following s.index) } = some (result, t)) := by
  unfold dashed at run
  obtain ⟨_, _, ⟨⟩, run⟩ := bind_eq_some run
  obtain ⟨_, _, ⟨⟩, run⟩ := bind_eq_some run
  split at run
  next touches =>
    obtain ⟨_, _, ⟨⟩, run⟩ := bind_eq_some run
    obtain ⟨_, _, ⟨⟩, run⟩ := bind_eq_some run
    exact .inr ⟨touches, run⟩
  next apart =>
    cases run
    exact .inl ⟨Bool.eq_false_iff.2 apart, rfl, rfl⟩

theorem dashed_counts {bound : Nat} {segment result : PathSegment}
    (run : dashed bound segment x.first s = some (result, t)) (counts : x.Counts t) : x.Counts s := by
  induction bound generalizing segment s with
  | zero => cases run
  | succ bound ih =>
    obtain ⟨_, rfl, _⟩ | ⟨_, rest⟩ := dashed_cases run
    · exact counts
    · exact ih (s := { s with index := x.first.following (x.first.following s.index) }) rest

section Dashes

variable {segment segment' result result' : PathSegment}

/-- Before the end of the excerpt both segments end with the same token of it. -/
def StopAlike (x : Excerpt) (s : ParserState) (segment segment' : PathSegment) : Prop :=
  s.index < x.last → ∃ i < s.index, segment.span.stop = (x.first.token i).span.stop ∧
    segment'.span.stop = (x.second.token (x.shift + i)).span.stop

theorem continuesSegment_eq (level : x.Level s s') (stop : StopAlike x s segment segment') :
    continuesSegment x.second s' segment' = continuesSegment x.first s segment := by
  have dash := level.kind_beq level.ahead Symbol.minus
  simp only [Nat.add_zero] at dash
  simp only [continuesSegment, dash]
  cases minus : (x.first.token s.index).kind == Symbol.minus with
  | false => rfl
  | true =>
    have more : s.index < x.last := level.more (beq_iff_eq.1 minus)
    obtain ⟨i, before, stop, stop'⟩ := stop more
    have touches := x.touches i s.index before more (.inr (beq_iff_eq.1 minus))
    rw [← level.index, ← stop, ← stop'] at touches
    have ahead : x.Ahead 1 s := fun _ => more
    have identifier := level.kind_beq ahead .identifier
    have number := level.kind_beq ahead .number
    simp only [identifier, number]
    cases word : ((x.first.token (s.index + 1)).kind == .identifier ||
        (x.first.token (s.index + 1)).kind == .number) with
    | false => simp only [Bool.and_false]
    | true =>
      have further : s.index + 1 < x.last := by
        refine Nat.lt_of_le_of_ne more fun last => ?_
        rw [(x.ends _ more).2 last] at word
        cases word
      have touches' := x.touches s.index (s.index + 1) (Nat.lt_succ_self _) further
        (.inl (beq_iff_eq.1 minus))
      rw [← Nat.add_assoc, ← level.index] at touches'
      rw [Bool.eq_iff_iff]
      simp only [Bool.true_and, Bool.and_true, Bool.and_eq_true, beq_iff_eq, touches, touches']

theorem extendSegment_alike (alike : x.Alike segment segment') {next next' : Token}
    (same : x.Alike next next') :
    x.Alike (extendSegment segment next) (extendSegment segment' next') := by
  obtain ⟨name, quoted, span⟩ := segment
  obtain ⟨name', quoted', span'⟩ := segment'
  obtain ⟨rfl, rfl, spans⟩ := PathSegment.mk.inj alike
  obtain ⟨text, stops⟩ := Excerpt.token_eq_of_alike same
  have start : x.place span.start = x.place' span'.start := congrArg Span.start spans
  have stop : x.place next.span.stop = x.place' next'.span.stop := congrArg Span.stop stops
  rw [text]
  simp only [Excerpt.Alike, relocate, extendSegment, Span.relocate, Token.text, start, stop]

theorem dashed_together {bound bound' : Nat} (together : x.Together s s')
    (alike : x.Alike segment segment') (stop : StopAlike x s segment segment')
    (run : dashed bound segment x.first s = some (result, t))
    (run' : dashed bound' segment' x.second s' = some (result', u)) :
    x.Together t u ∧ x.Alike result result' := by
  induction bound generalizing bound' s s' segment segment' with
  | zero => cases run
  | succ bound ih =>
    obtain _ | bound' := bound'
    · cases run'
    have same := continuesSegment_eq together.toLevel stop
    obtain ⟨apart, rfl, rfl⟩ | ⟨touches, rest⟩ := dashed_cases run
    · obtain ⟨_, rfl, rfl⟩ | ⟨touches, _⟩ := dashed_cases run'
      · exact ⟨together, alike⟩
      · rw [same, apart] at touches
        cases touches
    · obtain ⟨apart, _⟩ | ⟨_, rest'⟩ := dashed_cases run'
      · rw [same, touches] at apart
        cases apart
      · simp only [continuesSegment, Bool.and_eq_true, Bool.or_eq_true, beq_iff_eq] at touches
        obtain ⟨⟨⟨minus, _⟩, _⟩, word⟩ := touches
        have more : s.index < x.last := together.more minus
        have further : s.index + 1 < x.last := by
          refine Nat.lt_of_le_of_ne more fun last => ?_
          rw [(x.ends _ more).2 last] at word
          simp at word
        have size := x.size
        have next : x.first.following s.index = s.index + 1 := if_pos (by omega)
        have together₁ := together.advance fun _ => more
        have together₂ := together₁.advance fun _ => by simp only [next]; exact further
        refine ih together₂ (extendSegment_alike alike (together.token fun _ => further)) ?_ rest rest'
        intro _
        have index := together.index
        refine ⟨s.index + 1, ?_, rfl, ?_⟩
        · have next' : x.first.following (s.index + 1) = s.index + 2 := if_pos (by omega)
          simp only [next, next']
          omega
        · rw [← Nat.add_assoc, ← index]
          rfl

end Dashes

def tablePathFrom (first : PathSegment) (others : List PathSegment) : Parser (List PathSegment) := do
  if ← accept Symbol.dot then return first :: (← path) else return first :: others

theorem tablePathFrom_agrees {first first' : PathSegment} {others others' : List PathSegment}
    (same : x.Alike first first') (alike : x.Alike others others') :
    Parser.Agrees x true 0 (tablePathFrom first others) (tablePathFrom first' others') := by
  refine .acceptDot (path_agrees.bind fun rest rest' alike => .pure ?_) (.pure ?_)
  · rw [Excerpt.Alike, relocate_cons, relocate_cons, same, alike]
  · rw [Excerpt.Alike, relocate_cons, relocate_cons, same, alike]

/-- A table path from a path on: its first segment takes the dashes that follow. -/
def withDashes : List PathSegment → Parser (List PathSegment)
  | [] => return []
  | first :: others => do
    let first ← dashed ((← remaining) + 1) first
    tablePathFrom first others

theorem withDashes_counts {path result : List PathSegment}
    (run : withDashes path x.first s = some (result, t)) (counts : x.Counts t) : x.Counts s := by
  cases path with
  | nil =>
    cases run
    exact counts
  | cons first others =>
    obtain ⟨_, _, ⟨⟩, run⟩ := bind_eq_some run
    obtain ⟨extended, s₁, dashes, run⟩ := bind_eq_some run
    obtain ⟨first', same⟩ := x.exists_alike extended
    obtain ⟨others', alike⟩ := x.exists_alike others
    exact dashed_counts dashes ((tablePathFrom_agrees same alike).grows s₁ result t run counts)

theorem stopAlike_of_path {first first' : PathSegment} {others others' : List PathSegment}
    (level : x.Level s s')
    (run : path x.first s = some (first :: others, t))
    (run' : path x.second s' = some (first' :: others', u)) : StopAlike x t first first' := by
  obtain ⟨_, _, ⟨⟩, read⟩ := bind_eq_some run
  obtain ⟨_, _, ⟨⟩, read'⟩ := bind_eq_some run'
  obtain ⟨span, forward⟩ := pathWithin_cons read
  obtain ⟨span', _⟩ := pathWithin_cons read'
  have size := x.size
  have index := level.index
  intro before
  have here : s.index ≤ x.first.following s.index := le_following _ _
  have next : x.first.following s.index = s.index + 1 := if_pos (by omega)
  exact ⟨s.index, by omega, by rw [span], by rw [span', index]⟩

theorem tablePath_agrees {started : Bool} : Parser.Agrees x started 1 tablePath tablePath where
  grows s result t run counts := by
    obtain ⟨path, s₁, read, run⟩ := bind_eq_some run
    exact (@path_agrees x true).grows s path s₁ read (withDashes_counts run counts)
  agree s s' level was ahead result t result' u run run' counts _ := by
    obtain ⟨path, s₁, read, run⟩ := bind_eq_some run
    obtain ⟨path', u₁, read', run'⟩ := bind_eq_some run'
    have counts₁ := withDashes_counts run counts
    obtain ⟨together₁, alike⟩ := path_agrees.agree s s' level was ahead path s₁ path' u₁ read read'
      counts₁ trivial
    cases path with
    | nil =>
      cases path' with
      | nil =>
        cases run
        cases run'
        exact ⟨together₁, rfl⟩
      | cons => cases alike
    | cons first others =>
      cases path' with
      | nil => cases alike
      | cons first' others' =>
        obtain ⟨same, alike⟩ : x.Alike first first' ∧ x.Alike others others' := List.cons.inj alike
        have stop := stopAlike_of_path level read read'
        obtain ⟨_, _, ⟨⟩, run⟩ := bind_eq_some run
        obtain ⟨extended, s₂, dashes, run⟩ := bind_eq_some run
        obtain ⟨_, _, ⟨⟩, run'⟩ := bind_eq_some run'
        obtain ⟨extended', u₂, dashes', run'⟩ := bind_eq_some run'
        obtain ⟨together₂, same⟩ := dashed_together together₁ same stop dashes dashes'
        exact (tablePathFrom_agrees same alike).agree s₂ u₂ together₂.toLevel
          (fun _ => together₂.started) together₂.toLevel.ahead result t result' u run run' counts trivial

/-! ### Tables -/

variable {started : Bool} {g g' : Grammar} (agrees : Agrees x g g')

include agrees

theorem systemTime_agrees : Parser.Agrees x true 0 g.systemTime g'.systemTime := by
  refine .token (fun token span _ => .lookahead (fun next span' _ => .ite ?_ (.pure rfl)) ?_) ?_
  · refine .advance (.advance
      ((expect_agrees _).discard.plain fun _ => .token (fun token span _ => ?_) ?_))
    · exact .ite (.advance agrees.expression.discard) (unexpected_agrees _)
    · intro _ token token' final final'
      rw [final.spells rfl rfl, final'.spells rfl rfl]
      exact unexpected_agrees _
  · intro _ next next' final final'
    rw [final.spells rfl rfl, final'.spells rfl rfl, Bool.and_false, Bool.and_false]
    exact .pure rfl
  · intro _ token token' final final'
    rw [final.spells rfl rfl, final'.spells rfl rfl]
    exact .lookaheadAny fun _ _ => .pure rfl

theorem tableFunction_agrees {start start' : Position} (same : x.place start = x.place' start')
    {path path' : List PathSegment} (alike : x.Alike path path') :
    Parser.Agrees x true 0 (g.tableFunction start path) (g'.tableFunction start' path') := by
  refine (call_agrees agrees same alike).bind fun call call' sameCall => ?_
  refine aliasName_agrees.bind fun (aliasName, _) (aliasName', _) alike => ?_
  obtain rfl : aliasName = aliasName' := (Prod.mk.inj alike).1
  have plain : Parser.Agrees x true 0
      (do return TableRef.function (← spanFrom start) call aliasName false "")
      (do return TableRef.function (← spanFrom start') call' aliasName false "") :=
    .spanned same fun span span' spans => by simp_all [TableRef.relocate]
  refine .check _ (.checkNext _ ?_ plain.any) (.checkNextAny _ fun _ _ => plain)
  refine .advance (.advance ?_)
  refine aliasName_agrees.bind fun (offsetAlias, _) (offsetAlias', _) alike => ?_
  obtain rfl : offsetAlias = offsetAlias' := (Prod.mk.inj alike).1
  exact .spanned same fun span span' spans => by simp_all [TableRef.relocate]

theorem plainSource_needs : Needs x g.plainSource g'.plainSource := by
  refine .position fun start start' same => .accept _ ?_ (.token (fun token span spans => .ite ?_ ?_) ?_)
  · refine agrees.query.agrees.bind fun query query' sameQuery => ?_
    refine (expect_agrees _).discard.plain fun _ => ?_
    refine aliasName_agrees.bind fun (aliasName, _) (aliasName', _) alike => ?_
    obtain rfl : aliasName = aliasName' := (Prod.mk.inj alike).1
    exact .spanned same fun span span' spans => by simp_all [TableRef.relocate]
  · exact (unexpected_agrees _).plain fun _ => .pure rfl
  · refine tablePath_agrees.bind fun path path' alike => (check_agrees _).plain fun _ => .ite ?_ ?_
    · exact tableFunction_agrees agrees same alike
    · refine (systemTime_agrees agrees).plain fun _ => ?_
      refine aliasName_agrees.bind fun (aliasName, aliasSpan) (aliasName', aliasSpan') alike' => ?_
      obtain ⟨rfl, spans⟩ : aliasName = aliasName' ∧ x.Alike aliasSpan aliasSpan' := Prod.mk.inj alike'
      rw [PathSegment.tableName_eq alike]
      exact .spanned same fun span span' spans => by simp_all [TableRef.relocate]
  · intro cut token final
    simp only [final.isWord]
    exact unexpected_noisy (fun lax => (x.strict lax).2 cut) _ _

theorem sourceForms_agrees {source source' : TableRef}
    (same : source.relocate x.place = source'.relocate x.place') (bound bound' : Nat) :
    Parser.Agrees x true 0 (g.sourceForms bound source) (g'.sourceForms bound' source') := by
  induction bound generalizing bound' source source' with
  | zero => exact exhausted_agrees
  | succ bound ih =>
    have steps (bound' : Nat) : Parser.Agrees x true 0 (g.sourceForms (bound + 1) source)
        (g'.sourceForms (bound' + 1) source') := by
      refine .dialect (.token (fun token span _ => ?_) fun _ token token' final final' => ?_)
      · dsimp only
        cases Dialect.bigQuery.sourceForm? token.kind with
        | none => exact .pure same
        | some form =>
          refine .advance ?_
          refine (Attempt.orNote_agrees (sourceForm_agrees agrees same form)).bind
            fun found found' alike => ?_
          cases found with
          | none =>
            cases found' with
            | none => exact .pure same
            | some => cases alike
          | some applied =>
            cases found' with
            | none => cases alike
            | some applied' => exact ih (Option.some.inj alike) bound'
      · have stays : Parser.Agrees x true 0 (pure source) (pure source') := .pure same
        obtain ends | ends := final.kind <;> obtain ends' | ends' := final'.kind <;>
          rw [ends, ends'] <;> exact stays
    cases bound' with
    | zero => exact (steps 0).exhausted
    | succ bound' => exact steps bound'

theorem tableRef_needs : Needs x g.tableRef g'.tableRef := by
  refine (plainSource_needs agrees).bind
    fun source source' (same : source.relocate x.place = source'.relocate x.place') => ?_
  split
  · split
    · exact .pure rfl
    next other => exact (other (TableRef.eq_missing_of_relocate same.symm)).elim
  next other =>
    split
    · exact (other (TableRef.eq_missing_of_relocate same)).elim
    · exact .remaining fun _ _ => sourceForms_agrees agrees same _ _

/-! ### Joins -/

omit agrees in
theorem joinColumns_agrees : Parser.Agrees x true 0 joinColumns joinColumns := by
  refine (expect_agrees _).plain fun _ => .ite (.pure rfl) ?_
  refine (Attempt.orNote_agrees (Attempt.commaSeparated_agrees Attempt.columnRef_agrees)).bind
    fun found found' alike => ?_
  cases found with
  | none =>
    cases found' with
    | none => exact .pure rfl
    | some => cases alike
  | some columns =>
    cases found' with
    | none => cases alike
    | some columns' =>
      exact (expect_agrees _).discard.plain fun _ => .pure (Option.some.inj alike)

omit agrees in
theorem usingColumns_agrees (allowed : Bool) :
    Parser.Agrees x true 0 (usingColumns allowed) (usingColumns allowed) :=
  .ite (.accept _ joinColumns_agrees (.pure rfl)) (.pure rfl)

omit agrees in
theorem joinKind_agrees (natural : Bool) :
    Parser.Agrees x true 0 (joinKind natural) (joinKind natural) := by
  refine .accept _ (.pure rfl) (.dialect (.token (fun token span _ => ?_) ?_))
  · dsimp only
    cases found : Dialect.bigQuery.join? token.kind with
    | none => exact .ite ((unexpected_agrees _).plain fun _ => .pure rfl) (.pure rfl)
    | some rule =>
      have optional : Parser.Agrees x true 0 (rule.optional.elim (pure false) accept)
          (rule.optional.elim (pure false) accept) := by
        cases word : rule.optional with
        | none => exact .pure rfl
        | some word =>
          obtain rfl := Dialect.bigQuery_join_optional found word
          exact accept_agrees Keyword.OUTER
      refine .advance (optional.discard.plain fun _ => ?_)
      exact (expect_agrees _).plain fun _ => .ite (.pure rfl) (.pure rfl)
  · intro _ token token' final final'
    have absent : Parser.Agrees x true 0
        (if natural then
          do unexpected Keyword.JOIN.text; return some (JoinKind.inner, (none : Option Bool))
        else return none)
        (if natural then do unexpected Keyword.JOIN.text; return some (.inner, none) else return none) :=
      .ite ((unexpected_agrees _).plain fun _ => .pure rfl) (.pure rfl)
    obtain ends | ends := final.kind <;> obtain ends' | ends' := final'.kind <;>
      rw [ends, ends'] <;> exact absent

theorem joinTo_agrees {start start' : Position} (same : x.place start = x.place' start')
    (kind : JoinKind) (natural allowsUsing : Bool) :
    Parser.Agrees x true 0 (g.joinTo start kind natural allowsUsing)
      (g'.joinTo start' kind natural allowsUsing) := by
  refine (tableRef_needs agrees).agrees.bind fun right right' alike => .accept _ ?_ ?_
  · refine agrees.expression.bind fun condition condition' sameCondition => ?_
    exact .spanned same fun span span' spans => by simp_all [Join.relocate]
  · refine (usingColumns_agrees _).bind fun columns columns' sameColumns => ?_
    exact .spanned same fun span span' spans => by simp_all [Join.relocate]

omit agrees in
theorem join_final {input : ParserInput} (dialect : input.dialect = .bigQuery) (s : ParserState)
    (final : (input.token s.index).Final) : g.join input s = some (none, s) := by
  have refused (kind : TokenKind) [kind.Medial] : accept kind input s = some (false, s) := by
    rw [accept_eq, final.kind_beq]
    rfl
  have here : current input s = some (input.token s.index, s) := rfl
  have start : position input s = some ((input.token s.index).span.start, s) := rfl
  have kind : joinKind false input s = some (none, s) := by
    rw [joinKind, bind_eq (refused Keyword.JOIN)]
    change (Parser.dialect >>= _) input s = _
    rw [bind_eq (dialect_eq dialect), bind_eq here]
    obtain ends | ends := final.kind <;> rw [ends] <;> rfl
  rw [join, bind_eq start, bind_eq (refused Symbol.comma)]
  change (accept Keyword.NATURAL >>= _) input s = _
  rw [bind_eq (refused Keyword.NATURAL), bind_eq kind]
  rfl

theorem join_agrees : Parser.Agrees x true 0 g.join g'.join := by
  refine .of_final (.position fun start start' same => .any (.accept _ ?_ ?_)) (a := none) (b := none)
    rfl (fun s final => ?_) fun s final => ?_
  · refine (tableRef_needs agrees).agrees.bind fun right right' alike => ?_
    exact .spanned same fun span span' spans => by simp_all [Join.relocate]
  · refine (accept_agrees _).plain fun natural => (joinKind_agrees natural).plain fun kind => ?_
    match kind with
    | none => exact .pure rfl
    | some (kind, none) => exact .pure (by simp [Join.relocate, x.unset_span])
    | some (kind, some allowsUsing) =>
      exact (joinTo_agrees agrees same _ _ _).bind fun join join' same => .pure (congrArg some same)
  · exact join_final x.dialect s final
  · exact join_final x.dialect' s final

theorem fromClause_needs : Needs x g.fromClause g'.fromClause := by
  refine .position fun start start' same => .mark fun mark => ?_
  refine (tableRef_needs agrees).bind fun source source' sameSource => ?_
  refine .remaining fun bound bound' => ?_
  refine AgreesIf.bind (repeated_agrees ?_ _ _) fun joins joins' sameJoins => ?_
  · exact (failedSince_agrees _).plain fun _ => .ite (.pure rfl) (join_agrees agrees)
  exact .spanned same fun span span' spans => by simp_all [FromClause.relocate]

end Grammar

end QueryLint
