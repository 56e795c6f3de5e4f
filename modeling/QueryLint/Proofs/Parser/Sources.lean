import QueryLint.Proofs.Parser.Calls
import QueryLint.Proofs.Parser.Forms

/-!
What the sources of rows read: tables, derived tables, table functions and the joins between them.
-/

namespace QueryLint

namespace Grammar

open QueryLint.Parser

variable {input : ParserInput} (formed : input.WellFormed) {grammar : Grammar} {lo : Nat}
  (sound : grammar.Sound input lo) {s : ParserState}

include formed

/-! ### Names of tables -/

theorem dashed_yields (bound : Nat) (segment : PathSegment) (inside : s.index < input.tokens.size)
    (enough : input.tokens.size - s.index < bound) :
    Yields input s (dashed bound segment) fun _ s' => s'.errors = s.errors := by
  induction bound generalizing s segment with
  | zero => omega
  | succ bound ih =>
    refine .look rfl (.look rfl ?_)
    split
    next dash =>
      simp only [Bool.and_eq_true, beq_iff_eq] at dash
      have more := formed.more inside dash.1.1.1 (by decide)
      refine .step (advance_eq more) ((advance_yields more).bind fun _ s' moves clean => ?_)
      have forward := moves.forward
      simp only [ParserState.next_index] at forward
      exact (ih _ moves.inside (by omega)).mono fun _ _ _ clean' => clean'.trans clean
    next => exact ⟨segment, s, rfl, .refl inside, rfl⟩

theorem tablePath_yields (more : s.index + 1 < input.tokens.size) :
    Yields input s tablePath fun _ s' => s'.errors = s.errors ∧ s.index < s'.index := by
  refine (path_yields formed (Nat.lt_of_succ_lt more)).bind fun segments s₁ moves₁ read => ?_
  have taken := read.2 more
  cases segments with
  | nil => exact ⟨[], s₁, rfl, .refl moves₁.inside, read.1, taken⟩
  | cons first others =>
    refine .look rfl ((dashed_yields formed _ first moves₁.inside (Nat.lt_succ_self _)).bind
      fun first s₂ moves₂ clean₂ => ?_)
    have forward₂ := moves₂.forward
    have clean : s₂.errors = s.errors := clean₂.trans read.1
    refine .accept formed moves₂.inside (fun _ more₃ => ?_) fun _ => ?_
    · refine (path_yields formed more₃).bind fun rest s₄ moves₄ read₄ => ?_
      have forward₄ := moves₄.forward
      simp only [ParserState.next_index] at forward₄
      exact ⟨first :: rest, s₄, rfl, .refl moves₄.inside, read₄.1.trans clean, by omega⟩
    · exact ⟨first :: others, s₂, rfl, .refl moves₂.inside, clean, by omega⟩

include sound

theorem systemTime_gives (after : lo ≤ s.index) (inside : s.index < input.tokens.size) :
    Gives input s grammar.systemTime fun _ _ => True := by
  refine .look rfl (.look rfl ?_)
  split
  · refine (advance_gives inside).bind fun _ s₁ forward₁ inside₁ => ?_
    refine (advance_gives inside₁).bind fun _ s₂ forward₂ inside₂ => ?_
    refine (expected_gives formed inside₂).bind fun _ s₃ forward₃ inside₃ => .look rfl ?_
    split
    · refine (advance_gives inside₃).bind fun _ s₄ forward₄ inside₄ => ?_
      exact (sound.expression (by omega) inside₄).discard.mono fun _ _ _ _ _ _ _ _ _ _ _ _ => trivial
    · exact (unexpected_gives inside₃ _).mono fun _ _ _ impossible => impossible.elim
  · exact .pure inside trivial

/-! ### Single sources -/

theorem tableFunction_gives {start : Position} {i : Nat}
    (started : start = (input.token i).span.start) (path : List PathSegment) (before : i < s.index)
    (after : lo ≤ s.index) (inside : s.index < input.tokens.size) :
    Gives input s (grammar.tableFunction start path) fun table s' =>
      table.Covers input i s'.index := by
  subst started
  refine (call_gives formed sound rfl path before after inside).bind
    fun call s₁ forward₁ inside₁ => ?_
  refine (aliasName_gives formed inside₁).bind fun (aliasName, _) s₂ forward₂ inside₂ => ?_
  refine .look rfl (.look rfl ?_)
  split
  · refine (advance_gives inside₂).bind fun _ s₃ forward₃ inside₃ => ?_
    refine (advance_gives inside₃).bind fun _ s₄ forward₄ inside₄ => ?_
    refine (aliasName_gives formed inside₄).bind fun (offsetAlias, _) s₅ forward₅ inside₅ => ?_
    refine .span fun span spanned => .pure inside₅ fun _ _ _ _ _ _ _ _ _ read => ?_
    exact .intro (by omega) (spanned (by omega)) read.1
      (read.placed (Nat.le_refl _) (by omega)).present
  · refine .span fun span spanned => .pure inside₂ fun _ _ _ read => ?_
    exact .intro (by omega) (spanned (by omega)) read.1
      (read.placed (Nat.le_refl _) (by omega)).present

theorem plainSource_gives (after : lo ≤ s.index + 1) (inside : s.index < input.tokens.size) :
    Gives input s grammar.plainSource fun table s' => table.Covers input s.index s'.index := by
  refine .look rfl (.accept formed inside (fun _ s₁ here₁ inside₁ => ?_) fun _ => .look rfl ?_)
  · refine (sound.query s₁ (by omega) inside₁).bind fun query s₂ forward₂ inside₂ => ?_
    refine (expected_gives formed inside₂).bind fun _ s₃ forward₃ inside₃ => ?_
    refine (aliasName_gives formed inside₃).bind fun (aliasName, _) s₄ forward₄ inside₄ => ?_
    refine .span fun span spanned => .pure inside₄ fun _ _ _ _ _ read => ?_
    exact .intro (by omega) (spanned (by omega)) trivial
      (allWithin_singleton.2 (read.within (by omega) (by omega)))
  · split
    next => exact .failed (unexpected_gives inside _)
    next word =>
      have more := isWord_more formed inside (by simpa using word)
      refine (tablePath_yields formed more).quiet fun path s₁ forward₁ inside₁ taken => ?_
      refine .look rfl ?_
      split
      · exact tableFunction_gives formed sound rfl path taken (by omega) inside₁
      · refine (systemTime_gives formed sound (by omega) inside₁).bind
          fun _ s₂ forward₂ inside₂ => ?_
        refine (aliasName_gives formed inside₂).bind
          fun (aliasName, aliasSpan) s₃ forward₃ inside₃ => ?_
        refine .span fun span spanned => .pure inside₃ fun _ _ _ _ => ?_
        exact .intro (by omega) (spanned (by omega)) trivial allWithin_nil

theorem sourceForms_gives {i : Nat} (bound : Nat) (source : TableRef) (after : lo ≤ s.index + 1)
    (inside : s.index < input.tokens.size) (enough : input.tokens.size - s.index < bound) :
    Gives input s (grammar.sourceForms bound source) fun table s' =>
      source.Covers input i s.index → table.Covers input i s'.index := by
  induction bound generalizing s source with
  | zero => omega
  | succ bound ih =>
    refine .look rfl (.look rfl ?_)
    split
    next => exact .pure inside id
    next form found =>
      have more : s.index + 1 < input.tokens.size := by
        refine formed.more inside rfl fun last => ?_
        rw [last, formed.source] at found
        cases found
      refine .advance more fun s₁ here₁ inside₁ => ?_
      refine (Attempt.orNote_gives (sourceForm_gives (i := i) (j := s.index) formed sound (by omega)
        form (by omega) inside₁)).bind fun applied s₂ forward₂ inside₂ => ?_
      cases applied with
      | some applied =>
        refine (ih applied (by omega) inside₂ (by omega)).mono
          fun table s₃ _ read _ ⟨_, same, applies⟩ sourced => ?_
        cases same
        exact read (applies sourced)
      | none => exact .pure inside₂ fun _ ⟨_, impossible, _⟩ => nomatch impossible

theorem tableRef_gives (after : lo ≤ s.index + 1) (inside : s.index < input.tokens.size) :
    Gives input s grammar.tableRef fun table s' => table.Covers input s.index s'.index := by
  refine (plainSource_gives formed sound after inside).bind fun source s₁ forward₁ inside₁ => ?_
  split
  next => exact .pure inside₁ fun _ ⟨impossible, _⟩ => nomatch impossible
  next =>
    exact .look rfl ((sourceForms_gives formed sound _ source (by omega) inside₁
      (Nat.lt_succ_self _)).mono fun table s₂ _ read _ sourced => read sourced)

/-! ### Joins -/

def ColumnsWithin (input : ParserInput) (i j : Nat) (columns : List ColumnRef) : Prop :=
  ∀ ref ∈ columns, Within input i j (.node (.expr (.column ref)))

omit sound in
theorem joinColumns_gives (inside : s.index < input.tokens.size) :
    Gives input s joinColumns fun columns s' => ColumnsWithin input s.index s'.index columns := by
  refine .expect formed inside (fun _ s₁ here₁ inside₁ => ?_)
    fun _ _ inside => .pure inside trivial
  refine (Attempt.orNote_gives (Attempt.commaSeparated_gives formed widens_column (fun _ _ inside =>
    (columnRef_gives formed inside).mono fun _ _ _ read =>
      read.within (Nat.le_refl _) (Nat.le_refl _)) (Nat.zero_le _) inside₁)).bind
        fun columns s₂ forward₂ inside₂ => ?_
  cases columns with
  | none => exact .pure inside₂ fun _ ⟨_, impossible, _⟩ => nomatch impossible
  | some columns =>
    refine (expected_gives formed inside₂).bind fun _ s₃ forward₃ inside₃ => ?_
    refine .pure inside₃ fun _ _ _ ⟨_, same, _, read⟩ ref member => ?_
    cases same
    exact (read ref member).widen (by omega) (by omega)

omit sound in
theorem usingColumns_gives (allowed : Bool) (inside : s.index < input.tokens.size) :
    Gives input s (usingColumns allowed) fun columns s' =>
      ColumnsWithin input s.index s'.index columns := by
  cases allowed with
  | false => exact .pure inside (List.forall_mem_nil _)
  | true =>
    refine .accept formed inside (fun _ s₁ here₁ inside₁ => ?_)
      fun _ => .pure inside (List.forall_mem_nil _)
    exact (joinColumns_gives formed inside₁).mono fun columns s₂ _ read ref member =>
      (read ref member).widen (by omega) (Nat.le_refl _)

omit sound in
/-- A kind of join takes a token, and one without `JOIN` is an error. -/
theorem joinKind_yields (natural : Bool) (inside : s.index < input.tokens.size) :
    Yields input s (joinKind natural) fun found s' =>
      (found.isSome → natural = true ∨ s.index < s'.index) ∧
        (s'.errors = s.errors → ∀ kind, found ≠ some (kind, none)) := by
  refine .accept formed inside (fun _ more => ?_) fun _ => .look rfl (.look rfl ?_)
  · exact ⟨_, s.next, rfl, .refl more, fun _ => .inr (Nat.lt_succ_self _), nofun⟩
  · split
    next rule found =>
      have more : s.index + 1 < input.tokens.size := by
        refine formed.more inside rfl fun last => ?_
        rw [last, formed.join] at found
        cases found
      have joined : Gives input s.next (do
          discard <| rule.optional.elim (pure false) accept
          if ← expect Keyword.JOIN then return some (rule.join, some rule.allowsUsing)
          else return some (rule.join, none)) fun found _ => ∀ kind, found ≠ some (kind, none) := by
        have optional : Gives input s.next (rule.optional.elim (pure false) accept)
            fun _ _ => True := by
          cases rule.optional with
          | none => exact .pure more trivial
          | some kind => exact accept_gives more kind
        refine optional.discard.bind fun _ s₂ _ inside₂ => ?_
        exact .expect formed inside₂ (fun _ s₃ _ inside₃ => .pure inside₃ fun _ _ _ => nofun)
          fun _ _ inside => .pure inside trivial
      refine .step (advance_eq more) (Yields.mono joined fun _ _ moves read => ?_)
      exact ⟨fun _ => .inr moves.forward, read⟩
    next =>
      split
      next given =>
        refine Yields.bind (unexpected_gives inside _) fun _ s₁ moves noted => ?_
        exact ⟨_, s₁, rfl, .refl moves.inside, fun _ => .inl given, fun clean => (noted clean).elim⟩
      next => exact ⟨none, s, rfl, .refl inside, nofun, nofun⟩

omit formed sound in
theorem covers_join {join : Join} {i j : Nat} (nonempty : i < j)
    (spanned : join.span = input.cover i j) (whole : join.Whole)
    (right : join.right.Placed input i j)
    (condition : ∀ e ∈ join.condition, e.Placed input i j)
    (columns : ColumnsWithin input i j join.columns) : Covers input i j (.node (.join join)) := by
  refine .node nonempty spanned whole ?_ nofun
  simp only [Node.children, allWithin_append]
  exact ⟨⟨right.present, allWithin_optionNodes condition⟩, allWithin_columnNodes columns⟩

theorem joinTo_gives {start : Position} {i : Nat} (started : start = (input.token i).span.start)
    (kind : JoinKind) (natural allowsUsing : Bool) (before : i < s.index) (after : lo ≤ s.index)
    (inside : s.index < input.tokens.size) :
    Gives input s (grammar.joinTo start kind natural allowsUsing) fun join s' =>
      Covers input i s'.index (.node (.join join)) := by
  subst started
  refine (tableRef_gives formed sound (by omega) inside).bind fun right s₁ forward₁ inside₁ => ?_
  refine .accept formed inside₁ (fun _ s₂ here₂ inside₂ => ?_) fun _ => ?_
  · refine (sound.expression (by omega) inside₂).bind fun condition s₃ forward₃ inside₃ => ?_
    refine .span fun span spanned => .pure inside₃ fun _ conditioned _ read => ?_
    refine covers_join (by omega) (spanned (by omega)) ⟨read.1, ?_, fun _ => rfl⟩
      (read.placed (by omega) (by omega)) ?_ nofun
    · rintro e ⟨⟩
      exact conditioned.1
    · rintro e ⟨⟩
      exact conditioned.placed (by omega) (by omega)
  · refine (usingColumns_gives formed allowsUsing inside₁).bind fun columns s₂ forward₂ inside₂ => ?_
    refine .span fun span spanned => .pure inside₂ fun _ columned _ read => ?_
    exact covers_join (by omega) (spanned (by omega)) ⟨read.1, nofun, nofun⟩
      (read.placed (by omega) (by omega)) nofun
      fun ref member => (columned ref member).widen (by omega) (by omega)

theorem join_takes (after : lo ≤ s.index + 1) (inside : s.index < input.tokens.size) :
    Takes input s grammar.join fun i j join => Within input i j (.node (.join join)) := by
  refine .look rfl (.accept formed inside (fun _ s₁ here₁ inside₁ => ?_) fun _ => ?_)
  · refine (tableRef_gives formed sound (by omega) inside₁).bind fun right s₂ forward₂ inside₂ => ?_
    refine .span fun span spanned => .pure inside₂ ?_
    rintro _ read join ⟨⟩
    have covers : Covers input s.index s₂.index
        (.node (.join ⟨span, .comma, false, right, none, []⟩)) :=
      covers_join (by omega) (spanned (by omega)) ⟨read.1, nofun, nofun⟩
        (read.placed (by omega) (by omega)) nofun nofun
    exact covers.within (Nat.le_refl _) (Nat.le_refl _)
  · have written : Yields input s (accept Keyword.NATURAL) fun natural s' =>
        s'.errors = s.errors ∧ (natural = true → s.index < s'.index) := by
      by_cases found : (input.token s.index).kind = Keyword.NATURAL
      · have more := formed.more inside found (by decide)
        exact ⟨true, s.next, accept_eq_true more found, .of_next (.refl more), rfl,
          fun _ => Nat.lt_succ_self _⟩
      · exact ⟨false, s, accept_eq_false found, .refl inside, rfl, nofun⟩
    refine written.bind fun natural s₁ moves₁ ⟨clean₁, taken₁⟩ => ?_
    refine (joinKind_yields formed natural moves₁.inside).bind
      fun found s₂ moves₂ ⟨taken₂, joined⟩ => ?_
    have forward₁ := moves₁.forward
    have forward₂ := moves₂.forward
    match found with
    | none => exact ⟨none, s₂, rfl, .refl moves₂.inside, nofun, nofun⟩
    | some (kind, none) =>
      have taken : s.index < s₂.index := by
        rcases taken₂ rfl with given | taken
        · have := taken₁ given
          omega
        · omega
      refine ⟨_, s₂, rfl, .refl moves₂.inside, fun _ => taken, fun clean => ?_⟩
      exact absurd rfl (joined (clean.trans clean₁.symm) kind)
    | some (kind, some allowsUsing) =>
      have taken : s.index < s₂.index := by
        rcases taken₂ rfl with given | taken
        · have := taken₁ given
          omega
        · omega
      refine Yields.bind (joinTo_gives formed sound rfl kind natural allowsUsing taken (by omega)
        moves₂.inside) fun join s₃ moves₃ read => ?_
      have forward₃ := moves₃.forward
      refine ⟨some join, s₃, rfl, .refl moves₃.inside, fun _ => by omega, ?_⟩
      rintro clean join ⟨⟩
      have clean := ((moves₁.trans moves₂).clean moves₃ clean).2
      exact (read clean).within (Nat.le_refl _) (Nat.le_refl _)

omit formed sound in
theorem widens_join : Widens fun i j (join : Join) => Within input i j (.node (.join join)) :=
  fun _ _ _ _ _ after before within => within.widen after before

theorem fromClause_gives (after : lo ≤ s.index + 1) (inside : s.index < input.tokens.size) :
    Gives input s grammar.fromClause fun source s' =>
      Covers input s.index s'.index (.node (.source source)) := by
  refine .look rfl (.look rfl ((tableRef_gives formed sound after inside).bind
    fun source s₁ forward₁ inside₁ => .look rfl ?_))
  have takes (t : ParserState) (after : s.index ≤ t.index) (inside : t.index < input.tokens.size) :
      Takes input t (do
        if ← failedSince s.errors.length then return none
        grammar.join) fun i j join => Within input i j (.node (.join join)) := by
    refine .look rfl ?_
    split
    · exact .none inside
    · exact join_takes formed sound (by omega) inside
  refine (repeated_gives widens_join takes _ s₁ forward₁ inside₁ (Nat.lt_succ_self _)).bind
    fun joins s₂ forward₂ inside₂ => .span fun span spanned => ?_
  refine .pure inside₂ fun _ joined _ read => ?_
  have nonempty := read.2.nonempty
  refine .node (by omega) (spanned (by omega)) read.1 ?_ nofun
  exact allWithin_append.2 ⟨(read.placed (Nat.le_refl _) (by omega)).present,
    .map fun join member => (joined join member).widen (by omega) (Nat.le_refl _)⟩

end Grammar

end QueryLint
