import QueryLint.Parser.Source
import QueryLint.Proofs.Parser.Ensures.Calls
import QueryLint.Proofs.Parser.Ensures.Forms

/-!
What the sources of rows and their joins ensure.
-/

namespace QueryLint

namespace Grammar

open QueryLint.Parser

variable {allowed : SyntaxError → Prop} {named : TableName → Prop} {input : ParserInput}
  {grammar : Grammar} (known : grammar.Regular allowed named input)

/-! ### Tables -/

instance silent_dashed (bound : Nat) (segment : PathSegment) : Silent (dashed bound segment) := by
  induction bound generalizing segment with
  | zero => exact Silent.exhausted
  | succ bound ih =>
    unfold dashed
    infer_instance

instance : Silent tablePath where
  kept input s a s' run := by
    obtain ⟨found, t, read, run⟩ := bind_eq_some run
    obtain ⟨errors, recovered⟩ := Silent.path.kept input s found t read
    cases found with
    | nil =>
      cases run
      exact ⟨errors, recovered⟩
    | cons first others =>
      have rest : Silent (do
          let first ← dashed ((← remaining) + 1) first
          if ← accept Symbol.dot then return first :: (← path)
          else return first :: others) := inferInstance
      obtain ⟨errors', recovered'⟩ := rest.kept input t a s' run
      exact ⟨errors'.trans errors, recovered'.trans recovered⟩

include known

theorem systemTime_ensures : Ensures allowed input grammar.systemTime fun _ => True := by
  refine .skip fun token => .skip fun next => .ite (fun _ => ?_) fun _ => .pure trivial
  refine .skip fun _ => .skip fun _ => (expect_ensures known.admits _).discard.seq fun _ => ?_
  refine .skip fun word => .ite (fun _ => .skip fun _ => ?_) fun _ => ?_
  · exact known.expression.discard
  · exact unexpected_ensures known.admits _

theorem tableFunction_ensures (start : Position) (path : List PathSegment) :
    Ensures allowed input (grammar.tableFunction start path)
      fun table => Flawless named table.present := by
  refine (call_ensures known start path).bind fun call holds => ?_
  refine (aliasName_ensures known.admits).seq fun (aliasName, _) => .skip fun followed => ?_
  refine .skip fun _ => .ite (fun _ => .skip fun _ => .skip fun _ => ?_) fun _ => ?_
  · refine (aliasName_ensures known.admits).seq fun (offsetAlias, _) => .skip fun span => .pure ?_
    exact .table holds nofun
  · exact .skip fun span => .pure (.table holds nofun)

theorem derivedTable_ensures (start : Position) : Ensures allowed input
    (do
      let query ← grammar.query
      discard <| expect Symbol.rightParen
      let (aliasName, _) ← aliasName
      return TableRef.derived (← spanFrom start) query aliasName)
    fun table => Flawless named table.present := by
  refine known.query.bind fun query holds => (expect_ensures known.admits _).discard.seq fun _ => ?_
  refine (aliasName_ensures known.admits).seq fun (aliasName, _) => .skip fun span => .pure ?_
  exact .table holds nofun

theorem pathTable_ensures {start : Position} {path : List PathSegment}
    (holds : ∀ stop aliasName aliasSpan, named { PathSegment.tableName path with
      span := ⟨start, stop⟩, aliasName, aliasSpan }) : Ensures allowed input
    (do
      if ← check Symbol.leftParen then return ← grammar.tableFunction start path
      grammar.systemTime
      let (aliasName, aliasSpan) ← aliasName
      return TableRef.table { PathSegment.tableName path with
        span := ← spanFrom start, aliasName, aliasSpan })
    fun table => Flawless named table.present := by
  refine .branch (tableFunction_ensures known start path) ((systemTime_ensures known).seq fun _ => ?_)
  refine (aliasName_ensures known.admits).seq fun (aliasName, aliasSpan) => ?_
  have spanned : Ensures allowed input (spanFrom start) (·.start = start) :=
    .skip fun stop => .pure rfl
  refine spanned.bind ?_
  rintro ⟨_, stop⟩ rfl
  exact .pure (.tableName (holds stop aliasName aliasSpan))

theorem plainSource_ensures :
    Ensures allowed input grammar.plainSource fun table => Flawless named table.present := by
  -- Which name a table has depends on the place of its path, so the state is followed up to there.
  intro s table s' run noted
  obtain ⟨start, t, ran, run⟩ := bind_eq_some run
  obtain ⟨rfl, rfl⟩ : (input.token s.index).span.start = start ∧ s = t := by
    cases ran
    exact ⟨rfl, rfl⟩
  obtain ⟨opened, t, ran, run⟩ := bind_eq_some run
  rw [accept_eq] at ran
  split at ran
  · cases ran
    exact derivedTable_ensures known _ _ _ _ run ⟨noted.errors, noted.recovered⟩
  · cases ran
    obtain ⟨token, t, ran, run⟩ := bind_eq_some run
    cases ran
    split at run
    · have missing := (unexpected_ensures known.admits "table name").seq
        fun _ => Ensures.pure (b := TableRef.missing) (Q := fun t => Flawless named t.present) .nil
      exact missing _ _ _ run noted
    · next word =>
      obtain ⟨path, t, ran, run⟩ := bind_eq_some run
      obtain ⟨errors, recovered⟩ := Silent.kept _ _ _ _ ran
      have isWord : (input.token s.index).isWord = true := by simpa using word
      refine pathTable_ensures known (fun _ _ _ => known.names.read _ _ _ isWord ran) _ _ _ run ?_
      exact ⟨errors ▸ noted.errors, recovered ▸ noted.recovered⟩

/-! ### Special forms -/

theorem sourceForms_ensures (bound : Nat) {source : TableRef} (before : Flawless named source.present) :
    Ensures allowed input (grammar.sourceForms bound source)
      fun table => Flawless named table.present := by
  induction bound generalizing source with
  | zero => exact .exhausted
  | succ bound ih =>
    refine .skip fun dialect => .skip fun token => ?_
    split
    · exact .pure before
    · next form _ =>
      refine .skip fun _ => (Attempt.orNote_ensures (sourceForm_ensures known before form)).bind
        fun found holds => ?_
      cases found with
      | none => exact .pure before
      | some applied => exact ih (holds applied rfl)

theorem tableRef_ensures :
    Ensures allowed input grammar.tableRef fun table => Flawless named table.present := by
  refine (plainSource_ensures known).bind fun source holds => ?_
  split
  · exact .pure .nil
  · exact .skip fun _ => sourceForms_ensures known _ holds

/-! ### Joins -/

omit known in
theorem joinColumns_ensures (admits : input.Admits allowed) :
    Ensures allowed input joinColumns fun _ => True := by
  refine (expect_ensures admits _).seq fun _ => .ite (fun _ => .pure trivial) fun _ => ?_
  refine (Attempt.orNote_ensures (Attempt.commaSeparated_ensures
    (Attempt.columnRef_ensures admits))).seq fun columns => ?_
  cases columns with
  | none => exact .pure trivial
  | some columns => exact (expect_ensures admits _).discard.seq fun _ => .pure trivial

omit known in
theorem usingColumns_ensures (admits : input.Admits allowed) (allowsUsing : Bool) :
    Ensures allowed input (usingColumns allowsUsing) fun _ => True :=
  .ite (fun _ => .branch (joinColumns_ensures admits) (.pure trivial)) fun _ => .pure trivial

omit known in
theorem joinKind_ensures (admits : input.Admits allowed) (natural : Bool) :
    Ensures allowed input (joinKind natural) fun _ => True := by
  refine .branch (.pure trivial) (.skip fun dialect => .skip fun token => ?_)
  split
  · next rule _ =>
    have optional : Ensures allowed input
        (discard <| rule.optional.elim (pure false) accept) fun _ => True := by
      cases rule.optional with
      | none => exact .of_silent (p := discard (pure false))
      | some kind => exact .of_silent (p := discard (accept kind))
    refine .skip fun _ => optional.seq fun _ => (expect_ensures admits _).seq fun _ => ?_
    exact .ite (fun _ => .pure trivial) fun _ => .pure trivial
  · refine .ite (fun _ => ?_) fun _ => .pure trivial
    exact (unexpected_ensures admits _).seq fun _ => .pure trivial

theorem joinTo_ensures (start : Position) (kind : JoinKind) (natural allowsUsing : Bool) :
    Ensures allowed input (grammar.joinTo start kind natural allowsUsing)
      fun join => Flawless named [.join join] := by
  refine (tableRef_ensures known).bind fun right source => .branch ?_ ?_
  · refine known.expression.bind fun condition holds => .skip fun span => .pure ?_
    refine .of_children ((source.append (.optionNodes fun _ same => ?_)).append .nil) nofun
    exact Option.some.inj same ▸ holds
  · refine (usingColumns_ensures known.admits _).seq fun columns => .skip fun span => .pure ?_
    exact .of_children ((source.append .nil).append (.columnNodes columns)) nofun

theorem join_ensures :
    Ensures allowed input grammar.join fun found => ∀ join ∈ found, Flawless named [.join join] := by
  refine .skip fun start => .branch ?_ (.skip fun natural => ?_)
  · refine (tableRef_ensures known).bind fun right source => .skip fun span => .pure fun _ same => ?_
    exact Option.some.inj same ▸ .of_children ((source.append .nil).append .nil) nofun
  · refine (joinKind_ensures known.admits natural).seq fun found => ?_
    match found with
    | none => exact .pure nofun
    | some (kind, none) =>
      refine .pure fun _ same => Option.some.inj same ▸ .of_children ?_ nofun
      exact (Flawless.nil.append .nil).append .nil
    | some (kind, some allowsUsing) =>
      refine (joinTo_ensures known start kind natural allowsUsing).bind fun join holds => .pure ?_
      exact fun _ same => Option.some.inj same ▸ holds

theorem fromClause_ensures :
    Ensures allowed input grammar.fromClause fun source => Flawless named [.source source] := by
  refine .skip fun start => .skip fun mark => (tableRef_ensures known).bind fun source first => ?_
  have step : Ensures allowed input
      (do
        if ← failedSince mark then return none
        grammar.join) fun found => ∀ join ∈ found, Flawless named [.join join] :=
    .branch (.pure nofun) (join_ensures known)
  refine .skip fun bound => (repeated_ensures step _).bind fun joins each => .skip fun span => ?_
  exact .pure (.of_children (first.append (.map each)) nofun)

end Grammar

end QueryLint
