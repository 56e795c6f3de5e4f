import QueryLint.Proofs.Parser.Retention.Queries

/-!
What an accepted statement retains. The grammars of all levels retain what they read, so a column
that was read is a column reference of the statement, unless it stands where a part of the source
has no place in the tree.
-/

namespace QueryLint

open QueryLint.Parser Text

/-! ### The grammar of an input -/

namespace Grammar

variable {input : ParserInput} {place lo : Nat} {grammar halting : Grammar}

theorem Retentive.mono {lo' : Nat} (retentive : grammar.Retentive input place lo halting)
    (later : lo ≤ lo') : grammar.Retentive input place lo' halting where
  sound := retentive.sound.mono later
  expressionAbove above s after inside :=
    retentive.expressionAbove above s (Nat.le_trans later after) inside
  query s after inside := retentive.query s (Nat.le_trans later after) inside
  queryBody s after inside := retentive.queryBody s (Nat.le_trans later after) inside

variable (formed : input.WellFormed) {source : Bytes} (laid : input.Laid source)
  (slotted : input.dialect.Slotted)

include formed laid slotted

theorem Retentive.next (retentive : grammar.Retentive input place (lo + 1) halting) :
    grammar.next.Retentive input place lo (haltAt place halting) where
  sound := retentive.sound.next formed
  expressionAbove above _ after inside :=
    readExpression_retains formed laid retentive above (Nat.succ_le_succ after) inside
  query _ after inside :=
    readQuery_retains formed laid slotted retentive (Nat.succ_le_succ after) inside
  queryBody _ after inside :=
    readQueryBody_retains formed laid slotted retentive (Nat.succ_le_succ after) inside

/-- Each level retains the column from a token earlier than the one below it. -/
theorem level_retentive (n : Nat) :
    (level n).Retentive input place (input.tokens.size - n) (levelHalting place n) := by
  induction n with
  | zero => exact ⟨level_sound formed 0, fun _ _ _ => nofun, fun _ _ _ => nofun, fun _ _ _ => nofun⟩
  | succ n ih =>
    apply Retentive.next formed laid slotted
    apply ih.mono
    omega

theorem ofInput_retentive :
    (ofInput input).Retentive input place 0 (levelHalting place (input.tokens.size + 2)) := by
  have enough : Retentive input place _ _ _ :=
    level_retentive formed laid slotted (input.tokens.size + 2)
  rwa [Nat.sub_eq_zero_of_le (Nat.le_add_right _ _)] at enough

end Grammar

/-! ### One statement -/

theorem Parser.statement_retains {input : ParserInput} {place : Nat} {s : ParserState}
    {grammar halting : Grammar} (retentive : grammar.Retentive input place 0 halting)
    (inside : s.index < input.tokens.size) :
    Retains input place s.index False s (statement grammar) (statement halting)
      fun query => (Node.query query).Retains (input.offset place) := by
  refine (retentive.query s (Nat.zero_le _) inside).start (by omega) fun query s₁ _ inside₁ => ?_
  refine .same (accept_gives inside₁ Symbol.semicolon).discard fun _ s₂ _ inside₂ _ => ?_
  refine .look rfl (.look rfl ?_)
  refine .same ((fault_gives inside₂ _).when inside₂ _) fun _ s₃ _ inside₃ _ => ?_
  exact .pure inside₃ fun _ _ retained => retained

/-- Reading a statement comes upon a column that begins at an offset. -/
def Query.ReadsColumn (dialect : Dialect) (source : Bytes) (offset : Int) : Prop :=
  let (input, state) := start dialect source
  ∃ place, input.offset place = offset ∧
    statement (Grammar.levelHalting place (input.tokens.size + 2)) input state = none

/-- A column that is read in an accepted statement, none of whose definitions was skipped, is a
column reference of the statement, or it stands where a node of the statement drops a part of the
source. -/
theorem Query.column_retained {source : Bytes} {query : Query} {offset : Int}
    (accepted : Query.parse Dialect.bigQuery source = .accepted query none)
    (reads : Query.ReadsColumn Dialect.bigQuery source offset) :
    (∃ ref ∈ (Node.query query).columnRefs, ref.span.start.offset = offset) ∨
      ∃ node ∈ (Node.query query).descendants, node.Drops offset := by
  obtain ⟨place, rfl, halts⟩ := reads
  have proper := Dialect.bigQuery_proper
  have formed := start_wellFormed proper Dialect.bigQuery_bounded source
  have laid := start_laid proper source
  have retentive : Grammar.Retentive _ place 0 _ _ :=
    Grammar.ofInput_retentive formed laid Dialect.bigQuery_slotted
  obtain ⟨s, run, clean, skipped⟩ := result_eq_accepted accepted
  obtain ⟨moves, keeps⟩ := statement_retains retentive (start_inside formed) query s run
  have quiet : (start Dialect.bigQuery source).2.Quiet s := by
    constructor
    · rw [clean, eq_comm, ← List.prefix_nil, ← clean]
      exact moves.noted
    · exact List.head?_eq_none_iff.1 skipped
  obtain ⟨_, _, retains⟩ := keeps quiet (.inr fun same => nomatch halts.symm.trans same)
  exact retains.columnRef_or_drops

/-! ### Statements that drop a column -/

namespace Query

variable {source : Bytes} {offset : Int}

theorem readsColumn_of_isNone {dialect : Dialect} (place : Nat)
    (starts : (start dialect source).1.offset place = offset)
    (halts : (statement (Grammar.levelHalting place ((start dialect source).1.tokens.size + 2))
      (start dialect source).1 (start dialect source).2).isNone = true) :
    ReadsColumn dialect source offset :=
  ⟨place, starts, Option.isNone_iff_eq_none.1 halts⟩

/-- The statement of a source, if it is accepted and none of its definitions was skipped, has no
column reference at an offset. -/
def lacksColumn (source : Bytes) (offset : Int) : Bool :=
  match parse Dialect.bigQuery source with
  | .accepted query none => (Node.query query).columnRefs.all (·.span.start.offset != offset)
  | _ => false

theorem exists_of_lacksColumn (lacks : lacksColumn source offset = true) :
    ∃ query, parse Dialect.bigQuery source = .accepted query none ∧
      ∀ ref ∈ (Node.query query).columnRefs, ref.span.start.offset ≠ offset := by
  unfold lacksColumn at lacks
  split at lacks
  next query accepted => exact ⟨query, accepted, by simpa using lacks⟩
  next => cases lacks

/-- A statement is accepted without the column that was read at an offset of its source. -/
def DropsColumn (source : Bytes) (offset : Int) : Prop :=
  ReadsColumn Dialect.bigQuery source offset ∧
    ∃ query, parse Dialect.bigQuery source = .accepted query none ∧
      ∀ ref ∈ (Node.query query).columnRefs, ref.span.start.offset ≠ offset

/-- The token at a place starts at the offset, reading halts when it gets to a column there, and the
statement lacks the column. -/
def dropsColumn (source : Bytes) (place : Nat) (offset : Int) : Bool :=
  (start Dialect.bigQuery source).1.offset place == offset &&
    (statement (Grammar.levelHalting place ((start Dialect.bigQuery source).1.tokens.size + 2))
      (start Dialect.bigQuery source).1 (start Dialect.bigQuery source).2).isNone &&
    lacksColumn source offset

theorem DropsColumn.of_dropsColumn (place : Nat) (drops : dropsColumn source place offset = true) :
    DropsColumn source offset := by
  simp only [dropsColumn, Bool.and_eq_true, beq_iff_eq] at drops
  obtain ⟨⟨starts, halts⟩, lacks⟩ := drops
  exact ⟨readsColumn_of_isNone place starts halts, exists_of_lacksColumn lacks⟩

/-- A column after the operand of `EXTRACT`, which is read and not kept. -/
theorem column_retained_extract :
    ∃ query, parse Dialect.bigQuery (encode "SELECT EXTRACT(HOUR FROM a AT TIME ZONE b) FROM t") =
      .accepted query none ∧ ∃ node ∈ (Node.query query).descendants, node.Drops 40 := by
  obtain ⟨reads, query, accepted, absent⟩ : DropsColumn
      (encode "SELECT EXTRACT(HOUR FROM a AT TIME ZONE b) FROM t") 40 :=
    .of_dropsColumn 9 (by decide +kernel)
  refine ⟨query, accepted, (column_retained accepted reads).resolve_left ?_⟩
  rintro ⟨ref, member, starts⟩
  exact absent ref member starts

/-- Five statements that are accepted and lack a column which was read: in the time zone of an
`EXTRACT`, in the format of a conversion, in the moment of a table, before `.*` and after the
argument of an accessor word. -/
theorem columns_dropped :
    DropsColumn (encode "SELECT EXTRACT(HOUR FROM a AT TIME ZONE b) FROM t") 40 ∧
      DropsColumn (encode "SELECT CAST(a AS STRING FORMAT b) FROM t") 31 ∧
      DropsColumn (encode "SELECT a FROM t FOR SYSTEM_TIME AS OF b") 38 ∧
      DropsColumn (encode "SELECT f(b).* FROM t") 9 ∧
      DropsColumn (encode "SELECT a[OFFSET(i ORDER BY b)] FROM t") 27 := by
  -- One evaluation for all five, so that what they have in common is computed once.
  refine .imp (.of_dropsColumn 9) (.imp (.of_dropsColumn 7) (.imp (.of_dropsColumn 8)
    (.imp (.of_dropsColumn 3) (.of_dropsColumn 8)))) ?_
  decide +kernel

end Query

end QueryLint
