import QueryLint.Proofs.Parser.Sources
import QueryLint.Proofs.Parser.Retention.Forms

/-!
What the sources of rows retain. The moment after `FOR SYSTEM_TIME AS OF` is read and dropped; it
stands inside the table reference.
-/

namespace QueryLint

open QueryLint.Parser

namespace Grammar

variable {source : Text.Bytes} {input : ParserInput} (formed : input.WellFormed)
  (laid : input.Laid source) {place lo : Nat} {grammar halting : Grammar}
  (retentive : grammar.Retentive input place lo halting) {s : ParserState}

include formed retentive

theorem systemTime_retains (after : lo ≤ s.index) (inside : s.index < input.tokens.size) :
    Retains input place s.index False s grammar.systemTime halting.systemTime fun _ => True := by
  refine .look rfl (.look rfl (.ite (fun _ => ?_) fun _ => .pure inside nofun))
  refine .same (advance_gives inside) fun _ s₁ forward₁ inside₁ _ => ?_
  refine .same (advance_gives inside₁) fun _ s₂ forward₂ inside₂ _ => ?_
  refine .same (expected_gives formed inside₂) fun _ s₃ forward₃ inside₃ _ => .look rfl ?_
  refine .ite (fun _ => ?_) fun _ => ?_
  · refine .same (advance_gives inside₃) fun _ s₄ forward₄ inside₄ _ => ?_
    exact (retentive.expression s₄ (by omega) inside₄).discard.last (by omega) fun _ _ _ => trivial
  · exact (Retains.alike (unexpected_gives inside₃ _)).mono id fun _ => False.elim

include laid

/-! ### Single sources -/

theorem tableFunction_retains (start : Position) (path : List PathSegment) (after : lo ≤ s.index)
    (inside : s.index < input.tokens.size) :
    Retains input place s.index False s (grammar.tableFunction start path)
      (halting.tableFunction start path)
      fun table => RetainedIn (input.offset place) table.present := by
  refine (call_retains formed laid retentive start path after inside).start (by omega)
    fun call s₁ _ inside₁ => ?_
  have kept (retained : call.Retained (input.offset place)) (span : Span)
      (aliasName offsetAlias : String) (withOffset : Bool) : RetainedIn (input.offset place)
        (TableRef.function span call aliasName withOffset offsetAlias).present :=
    retainedIn_cons.2 (.inl (.of_children retained.kept))
  refine .same (aliasName_gives formed inside₁) fun (aliasName, _) s₂ _ inside₂ _ => ?_
  refine .look rfl (.look rfl (.ite (fun _ => ?_) fun _ => ?_))
  · refine .same (advance_gives inside₂) fun _ s₃ _ inside₃ _ => ?_
    refine .same (advance_gives inside₃) fun _ s₄ _ inside₄ _ => ?_
    refine .same (aliasName_gives formed inside₄) fun (offsetAlias, _) s₅ _ inside₅ _ => ?_
    exact .span fun span _ => .pure inside₅ fun _ _ retained => kept retained ..
  · exact .span fun span _ => .pure inside₂ fun _ _ retained => kept retained ..

theorem plainSource_retains (after : lo ≤ s.index + 1) (inside : s.index < input.tokens.size) :
    Retains input place s.index False s grammar.plainSource halting.plainSource
      fun table => RetainedIn (input.offset place) table.present := by
  refine .look rfl (.accept formed inside (fun _ s₁ here₁ inside₁ => ?_) fun _ => .look rfl ?_)
  · refine (retentive.query s₁ (by omega) inside₁).start (by omega) fun query s₂ _ inside₂ => ?_
    refine .same (expected_gives formed inside₂) fun _ s₃ _ inside₃ _ => ?_
    refine .same (aliasName_gives formed inside₃) fun (aliasName, _) s₄ _ inside₄ _ => ?_
    refine .span fun span _ => .pure inside₄ fun _ _ retained => ?_
    exact retainedIn_cons.2 (.inl (.of_children (retainedIn_cons.2 (.inl retained))))
  · refine .ite (fun _ => .failed (unexpected_gives inside _)) fun word => ?_
    have more := isWord_more formed inside (by simpa using word)
    refine .same (tablePath_yields formed more) fun path s₁ forward₁ inside₁ taken => ?_
    refine .look rfl (.ite (fun _ => ?_) fun _ => ?_)
    · exact (tableFunction_retains formed laid retentive _ path (by omega) inside₁).last (by omega)
        fun _ _ read => (read.resolve_left id).2
    · refine (systemTime_retains formed retentive (by omega) inside₁).bind (by omega)
        fun _ s₂ forward₂ inside₂ => ?_
      refine .same (aliasName_gives formed inside₂)
        fun (aliasName, aliasSpan) s₃ forward₃ inside₃ _ => ?_
      refine .span fun span spanned => .pure inside₃ fun after before read => ?_
      refine retainedIn_cons.2 (.inl (.of_drops ⟨?_, ?_⟩))
      · rw [spanned (by omega)]
        exact laid.start_le after (by omega)
      · rw [spanned (by omega)]
        exact laid.offset_lt_stop before inside₃

omit laid in
theorem sourceForms_retains {first : Nat} (bound : Nat) (table : TableRef)
    (before : first ≤ s.index) (after : lo ≤ s.index + 1) (inside : s.index < input.tokens.size) :
    Retains input place first (RetainedIn (input.offset place) table.present) s
      (grammar.sourceForms bound table) (halting.sourceForms bound table)
      fun applied => RetainedIn (input.offset place) applied.present := by
  induction bound generalizing s table with
  | zero => exact nofun
  | succ bound ih =>
    refine .look rfl (.look rfl ?_)
    cases found : input.dialect.sourceForm? (input.token s.index).kind with
    | none => exact .pure inside fun _ _ retained => retained
    | some form =>
      have more : s.index + 1 < input.tokens.size := by
        refine formed.more inside rfl fun last => ?_
        rw [last, formed.source] at found
        cases found
      refine .advance more fun s₁ here₁ inside₁ => ?_
      refine (Attempt.orNote_retains (sourceForm_retains formed retentive table form (by omega)
        (by omega) inside₁)).seq fun result s₂ _ moves => ?_
      have forward := moves.forward
      cases result with
      | some applied =>
        refine (ih applied (by omega) (by omega) moves.inside).mono ?_ fun _ retained _ => retained
        rintro ⟨_, ⟨⟩, retained⟩
        exact retained
      | none => exact .pure moves.inside (by simp)

theorem tableRef_retains (after : lo ≤ s.index + 1) (inside : s.index < input.tokens.size) :
    Retains input place s.index False s grammar.tableRef halting.tableRef
      fun table => RetainedIn (input.offset place) table.present := by
  refine (plainSource_retains formed laid retentive after inside).start (by omega)
    fun table s₁ _ inside₁ => ?_
  have forms : Retains input place s.index (RetainedIn (input.offset place) table.present) s₁
      (do grammar.sourceForms ((← remaining) + 1) table)
      (do halting.sourceForms ((← remaining) + 1) table)
      fun applied => RetainedIn (input.offset place) applied.present :=
    .look rfl (sourceForms_retains formed retentive _ table (by omega) (by omega) inside₁)
  cases table with
  | missing => exact .pure inside₁ fun _ _ retained => retained
  | _ => exact forms

/-! ### Joins -/

theorem joinTo_retains (start : Position) (kind : JoinKind) (natural allowsUsing : Bool)
    (after : lo ≤ s.index + 1) (inside : s.index < input.tokens.size) :
    Retains input place s.index False s (grammar.joinTo start kind natural allowsUsing)
      (halting.joinTo start kind natural allowsUsing)
      fun join => (Node.join join).Retains (input.offset place) := by
  refine (tableRef_retains formed laid retentive after inside).start (by omega)
    fun right s₁ forward₁ inside₁ => ?_
  refine .accept formed inside₁ (fun _ s₂ here₂ inside₂ => ?_) fun _ => ?_
  · refine (retentive.expression s₂ (by omega) inside₂).bind (by omega)
      fun condition s₃ _ inside₃ => ?_
    refine .span fun span _ => .pure inside₃ fun _ _ read => .of_children ?_
    simp only [Node.children, retainedIn_append, retainedIn_optionNodes]
    exact .inl (read.imp_right fun retained => ⟨condition, rfl, retained.2.kept⟩)
  · refine .same (usingColumns_gives formed allowsUsing inside₁) fun columns s₂ _ inside₂ _ => ?_
    refine .span fun span _ => .pure inside₂ fun _ _ retained => .of_children ?_
    simp only [Node.children, retainedIn_append]
    exact .inl (.inl retained)

theorem join_retains (after : lo ≤ s.index + 1) (inside : s.index < input.tokens.size) :
    Retains input place s.index False s grammar.join halting.join
      fun found => ∃ join ∈ found, (Node.join join).Retains (input.offset place) := by
  refine .look rfl (.accept formed inside (fun _ s₁ here₁ inside₁ => ?_) fun _ => ?_)
  · refine (tableRef_retains formed laid retentive (by omega) inside₁).start (by omega)
      fun right s₂ _ inside₂ => ?_
    refine .span fun span _ => .pure inside₂ fun _ _ retained => ⟨_, rfl, .of_children ?_⟩
    simp only [Node.children, retainedIn_append]
    exact .inl (.inl retained)
  · refine .same (accept_yields inside _) fun natural s₁ forward₁ inside₁ _ => ?_
    refine .same (joinKind_yields formed natural inside₁) fun found s₂ forward₂ inside₂ _ => ?_
    rcases found with _ | ⟨kind, _ | allowsUsing⟩
    · exact .pure inside₂ fun _ _ impossible => impossible.elim
    · exact .pure inside₂ fun _ _ impossible => impossible.elim
    · refine (joinTo_retains formed laid retentive _ kind natural allowsUsing (by omega)
        inside₂).start (by omega) fun join s₃ _ inside₃ => ?_
      exact .pure inside₃ fun _ _ retained => ⟨join, rfl, retained⟩

theorem fromClause_retains (after : lo ≤ s.index + 1) (inside : s.index < input.tokens.size) :
    Retains input place s.index False s grammar.fromClause halting.fromClause
      fun source => (Node.source source).Retains (input.offset place) := by
  refine .look rfl (.look rfl ?_)
  refine (tableRef_retains formed laid retentive after inside).start (by omega)
    fun table s₁ forward₁ inside₁ => .look rfl ?_
  have step (t : ParserState) (after : s.index ≤ t.index) (inside : t.index < input.tokens.size) :
      Retains input place t.index False t
        (do
          if ← failedSince s.errors.length then return none
          grammar.join)
        (do
          if ← failedSince s.errors.length then return none
          halting.join)
        fun found => ∃ join ∈ found, (Node.join join).Retains (input.offset place) :=
    .look rfl (.ite (fun _ => .pure inside nofun) fun _ =>
      join_retains formed laid retentive (by omega) inside)
  refine (repeated_retains step _ s₁ forward₁ inside₁).bind (by omega) fun joins s₂ _ inside₂ => ?_
  refine .span fun span _ => .pure inside₂ fun _ _ read => .of_children ?_
  simp only [Node.children, retainedIn_append, retainedIn_map]
  exact read.imp_right And.right

end Grammar

end QueryLint
