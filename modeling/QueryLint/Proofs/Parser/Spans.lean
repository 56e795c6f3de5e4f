import QueryLint.Proofs.Parser.Scripts

/-!
The spans of an accepted script. Productions are known to take up ranges of tokens; since tokens
take bytes and stand one after the other, ranges inside ranges are spans inside spans, and ranges
one after the other are spans one after the other.
-/

namespace QueryLint

open QueryLint.Parser Text

namespace Span

def Inside (inner outer : Span) : Prop :=
  outer.start.offset ≤ inner.start.offset ∧ inner.stop.offset ≤ outer.stop.offset

/-- The span goes from the start of a token to the end of the same or a later one and takes bytes
of the source. -/
def Exact (tokens : List Token) (source : Bytes) (span : Span) : Prop :=
  (∃ (i j : Nat) (first last : Token), i ≤ j ∧ tokens[i]? = some first ∧
    tokens[j]? = some last ∧ span = ⟨first.span.start, last.span.stop⟩) ∧
    span.start.offset < span.stop.offset ∧ span.stop.offset ≤ source.length

end Span

/-! ### From tokens to bytes -/

/-- The tokens of an input take bytes of a source, one token after the other. -/
structure ParserInput.Laid (source : Bytes) (input : ParserInput) : Prop where
  nonempty : ∀ i, i + 1 < input.tokens.size →
    (input.token i).span.start.offset < (input.token i).span.stop.offset
  ordered : ∀ i j, i < j → j < input.tokens.size →
    (input.token i).span.stop.offset ≤ (input.token j).span.start.offset
  inside : ∀ i, i < input.tokens.size → (input.token i).span.stop.offset ≤ source.length

theorem ParserInput.getElem?_tokens (input : ParserInput) {i : Nat}
    (inside : i < input.tokens.size) : input.tokens.toList[i]? = some (input.token i) := by
  rw [token_eq inside, Array.getElem?_toList, Array.getElem?_eq_getElem inside]

theorem Parser.start_laid {dialect : Dialect} (proper : dialect.Proper) (source : Bytes) :
    (start dialect source).1.Laid source := by
  have accounts := TokenStream.ofSource_accountsFor proper source
  obtain ⟨tokens, ends, others⟩ := accounts.ends
  have ordered := accounts.tokens
  have placed := accounts.placed
  have listed : (start dialect source).1.tokens.toList =
      (TokenStream.ofSource dialect.lexicon source).tokens := rfl
  generalize (start dialect source).1 = input at listed
  rw [← listed] at ordered placed ends
  have size : input.tokens.size = tokens.length + 1 := by
    rw [← Array.length_toList, ends, List.length_append, List.length_singleton]
  refine ⟨fun i more => ?_, fun i j before inside => ?_, fun i inside => ?_⟩
  · have found := input.getElem?_tokens (i := i) (by omega)
    rw [ends, List.getElem?_append_left (by omega)] at found
    exact (others _ (List.mem_of_getElem? found)).2
  · rw [ParserInput.token_eq (Nat.lt_trans before inside), ParserInput.token_eq inside]
    exact List.pairwise_iff_getElem.1 ordered i j (Nat.lt_trans before inside) inside before
  · have member := List.mem_of_getElem? (input.getElem?_tokens inside)
    obtain ⟨_, j, _, _, within, same⟩ :=
      placed _ (List.mem_append_left _ (List.mem_map_of_mem member))
    rw [same]
    exact Int.ofNat_le.2 within

namespace ParserInput.Laid

variable {source : Bytes} {input : ParserInput} (laid : input.Laid source) {i i' j j' : Nat}

include laid

theorem start_le (before : i ≤ i') (inside : i' + 1 < input.tokens.size) :
    (input.token i).span.start.offset ≤ (input.token i').span.start.offset := by
  rcases Nat.eq_or_lt_of_le before with rfl | before
  · exact Int.le_refl _
  · have nonempty := laid.nonempty i (by omega)
    have ordered := laid.ordered i i' before (by omega)
    omega

theorem stop_le (before : i ≤ i') (inside : i' + 1 < input.tokens.size) :
    (input.token i).span.stop.offset ≤ (input.token i').span.stop.offset := by
  rcases Nat.eq_or_lt_of_le before with rfl | before
  · exact Int.le_refl _
  · have nonempty := laid.nonempty i' inside
    have ordered := laid.ordered i i' before (by omega)
    omega

theorem cover_inside (after : i ≤ i') (nonempty : i' < j') (before : j' ≤ j)
    (inside : j < input.tokens.size) : (input.cover i' j').Inside (input.cover i j) :=
  ⟨laid.start_le after (by omega), laid.stop_le (by omega) (by omega)⟩

theorem cover_precedes (first : i < j) (later : j ≤ i') (inside : i' < input.tokens.size) :
    (input.cover i j).Precedes (input.cover i' j') :=
  laid.ordered (j - 1) i' (by omega) inside

theorem cover_exact (nonempty : i < j) (inside : j < input.tokens.size) :
    (input.cover i j).Exact input.tokens.toList source := by
  refine ⟨⟨i, j - 1, input.token i, input.token (j - 1), by omega, ?_, ?_, rfl⟩, ?_,
    laid.inside _ (by omega)⟩
  · exact input.getElem?_tokens (by omega)
  · exact input.getElem?_tokens (by omega)
  · have nonempty' := laid.nonempty i (by omega)
    have later : (input.token i).span.stop.offset ≤ (input.token (j - 1)).span.stop.offset :=
      laid.stop_le (by omega) (by omega)
    change (input.token i).span.start.offset < (input.token (j - 1)).span.stop.offset
    omega

/-- Everything at and below a part that stands in a range of tokens has an exact span, with its own
parts inside. -/
theorem exact_of_within {part : Part} (within : Within input i j part)
    (inside : j < input.tokens.size) {descendant : Part} (below : Part.Below part descendant) :
    descendant.span.Exact input.tokens.toList source ∧
      ∀ child ∈ descendant.children, child.span.Inside descendant.span := by
  induction below generalizing i j with
  | self part =>
    obtain ⟨_, nonempty, before, covers, _, children⟩ := within
    refine ⟨covers ▸ laid.cover_exact nonempty (by omega), fun child member => ?_⟩
    obtain ⟨after', nonempty', before', covers', _, _⟩ := children child member
    rw [covers, covers']
    exact laid.cover_inside after' nonempty' before' (by omega)
  | child member _ ih =>
    obtain ⟨_, _, before, _, _, children⟩ := within
    exact ih (children _ member) (by omega)

end ParserInput.Laid

/-! ### Statements -/

namespace Parser.Sequenced

variable {input : ParserInput} {i j : Nat} {queries : List Query}

theorem precedes {source : Bytes} (laid : input.Laid source)
    (sequenced : Sequenced input i j queries) (inside : j < input.tokens.size) :
    queries.Pairwise (·.span.Precedes ·.span) := by
  induction sequenced with
  | done => exact .nil
  | next _ _ covers rest ih =>
    refine .cons (fun query member => ?_) (ih inside)
    obtain ⟨a', b', after, before, covers'⟩ := rest.covers query member
    have first : _ = input.cover _ _ := covers.span
    have second : _ = input.cover _ _ := covers'.span
    have nonempty := covers'.nonempty
    rw [Part.span, Node.span] at first second
    rw [first, second]
    exact laid.cover_precedes covers.nonempty after (by omega)

theorem token_inside {source : Bytes} (laid : input.Laid source)
    (sequenced : Sequenced input i j queries) (inside : j < input.tokens.size) {k : Nat}
    (after : i ≤ k) (before : k < j) (other : (input.token k).kind ≠ Symbol.semicolon) :
    ∃ query ∈ queries, (input.token k).span.Inside query.span := by
  induction sequenced with
  | done gap => exact absurd (gap k after before) other
  | @next i a b j query _ gap _ covers rest ih =>
    by_cases early : k < a
    · exact absurd (gap k after early) other
    by_cases within : k < b
    · refine ⟨query, List.mem_cons_self, ?_⟩
      have forward := rest.forward
      have span : query.span = input.cover a b := covers.span
      rw [span, ← input.cover_one]
      exact laid.cover_inside (by omega) (by omega) (by omega) (by omega)
    · obtain ⟨query, member, found⟩ := ih inside (by omega) before
      exact ⟨query, List.mem_cons_of_mem _ member, found⟩

end Parser.Sequenced

/-- The spans of an accepted script: every part of a statement takes up tokens of the source and
has its own parts inside, and the statements follow one another and leave out semicolons only. -/
theorem Script.spans_nested {source : Bytes} {script : Script} {recovered : Option SyntaxError}
    (accepted : Script.parse Dialect.bigQuery source = .accepted script recovered) :
    let tokens := (TokenStream.ofSource Dialect.bigQuery.lexicon source).tokens
    (∀ query ∈ script.statements, ∀ part, Part.Below (.node (.query query)) part →
      part.span.Exact tokens source ∧ ∀ child ∈ part.children, child.span.Inside part.span) ∧
    script.statements.Pairwise (·.span.Precedes ·.span) ∧
    ∀ token ∈ tokens, token.kind ≠ Symbol.semicolon → token.kind ≠ .endOfInput →
      ∃ query ∈ script.statements, token.span.Inside query.span := by
  have proper := Dialect.bigQuery_proper
  have formed := start_wellFormed proper Dialect.bigQuery_bounded source
  have laid := start_laid proper source
  obtain ⟨j, last, sequenced⟩ :=
    Script.sequenced_of_parse proper Dialect.bigQuery_bounded accepted
  refine ⟨fun query member part below => ?_, sequenced.precedes laid (by omega),
    fun token member other more => ?_⟩
  · obtain ⟨a, b, _, before, covers⟩ := sequenced.covers query member
    exact laid.exact_of_within (covers.within (Nat.le_refl _) (Nat.le_refl _)) (by omega) below
  · have member' : token ∈ (start Dialect.bigQuery source).1.tokens.toList := member
    obtain ⟨k, inside, rfl⟩ := List.mem_iff_getElem.1 member'
    have inside' : k < (start Dialect.bigQuery source).1.tokens.size := inside
    have same := ParserInput.token_eq inside'
    rw [Array.getElem_toList, ← same] at other more ⊢
    have ended := (formed.ends k inside).2
    exact sequenced.token_inside laid (by omega) (Nat.zero_le k)
      (Nat.lt_of_le_of_ne (by omega) fun last' => more (ended (by omega))) other

/-- A script of two statements, with a definition that was skipped in the first one. -/
theorem Script.spans_nested_pair :
    ∃ script recovered,
      Script.parse Dialect.bigQuery (encode "WITH a AS (x) SELECT p.q FROM a;;SELECT -2") =
        .accepted script recovered ∧
      script.statements.length = 2 ∧ script.statements.Pairwise (·.span.Precedes ·.span) := by
  obtain ⟨script, recovered, accepted, two⟩ := ParseResult.exists_of_isAcceptedWith
    (show (Script.parse Dialect.bigQuery
      (encode "WITH a AS (x) SELECT p.q FROM a;;SELECT -2")).isAcceptedWith
      (fun script _ => script.statements.length == 2) by decide +kernel)
  exact ⟨script, recovered, accepted, beq_iff_eq.1 two, (Script.spans_nested accepted).2.1⟩

end QueryLint
