import QueryLint.Proofs.Parser.Retention.Calls

/-!
What the special forms of a dialect retain. An accessor word around an index becomes the mode of the
subscript, and what was read behind the argument of that word is dropped.
-/

namespace QueryLint

open QueryLint.Parser QueryLint.Attempt

namespace Grammar

variable {source : Text.Bytes} {input : ParserInput} (formed : input.WellFormed)
  (laid : input.Laid source) {place lo : Nat} {grammar halting : Grammar}
  (retentive : grammar.Retentive input place lo halting) {s : ParserState}

include retentive in
theorem tryExpression_retains (after : lo ≤ s.index) (inside : s.index < input.tokens.size) :
    Attempt.Retains input place s.index False s grammar.tryExpression halting.tryExpression
      (Expr.Retained (input.offset place)) :=
  complete_retains (retentive.expression s after inside)

include formed retentive

/-! ### Arrays and structures -/

theorem arrayElements_retains (after : lo ≤ s.index) (inside : s.index < input.tokens.size) :
    Attempt.Retains input place s.index False s grammar.arrayElements halting.arrayElements
      fun elements => RetainedIn (input.offset place) (exprNodes elements) := by
  have elements : Attempt.Retains input place s.index False s
      (if (input.token s.index).kind == Symbol.rightBracket then pure []
        else Attempt.commaSeparated (within "array literal" grammar.tryExpression))
      (if (input.token s.index).kind == Symbol.rightBracket then pure []
        else Attempt.commaSeparated (within "array literal" halting.tryExpression))
      fun elements => ∃ e ∈ elements, e.Retained (input.offset place) := by
    refine .ite (fun _ => .pure inside nofun) fun _ => ?_
    exact Attempt.commaSeparated_retains formed (fun s after inside =>
      within_retains (tryExpression_retains retentive after inside) _) after inside
  refine .look rfl (elements.start (by omega) fun elements s₁ _ inside₁ => ?_)
  refine .same (expectWithin_gives formed inside₁) fun _ s₂ _ inside₂ _ => .pure inside₂ ?_
  rintro _ _ ⟨e, member, retained⟩
  exact retainedIn_exprNodes.2 ⟨e, member, retained.kept⟩

theorem arrayLiteral_retains (more : s.index + 1 < input.tokens.size) (after : lo ≤ s.index + 1) :
    Attempt.Retains input place s.index False s grammar.arrayLiteral halting.arrayLiteral
      (Expr.Retained (input.offset place)) := by
  refine .look rfl (.advance more fun s₁ here₁ inside₁ => ?_)
  refine (arrayElements_retains formed retentive (by omega) inside₁).start (by omega)
    fun elements s₂ _ inside₂ => .span fun span _ => .pure inside₂ fun _ _ retained => ?_
  exact .of_children retained rfl

theorem array_retains (more : s.index + 1 < input.tokens.size) (after : lo ≤ s.index + 1) :
    Attempt.Retains input place s.index False s grammar.array halting.array
      (Expr.Retained (input.offset place)) := by
  have inside : s.index < input.tokens.size := by omega
  refine .look rfl (.look rfl ?_)
  generalize found : (input.token (s.index + 1)).kind = kind
  cases kind with
  | symbol symbol =>
    cases symbol with
    | leftParen =>
      have more' := formed.more more found (by decide)
      refine .advance more fun s₁ here₁ inside₁ => .advance (by omega) fun s₂ here₂ inside₂ => ?_
      refine (within_retains (complete_retains (retentive.query s₂ (by omega) inside₂)) _).start (by omega)
        fun query s₃ _ inside₃ => ?_
      refine .same (expectWithin_gives formed inside₃) fun _ s₄ _ inside₄ _ => ?_
      refine .span fun span _ => .pure inside₄ fun _ _ retained => .of_children ?_ rfl
      exact retainedIn_cons.2 (.inl retained)
    | less =>
      refine .same (within_gives (complete_gives (typeName_gives formed inside)) _)
        fun typeName s₁ _ inside₁ taken => ?_
      refine .same (expectWithin_gives formed inside₁) fun _ s₂ _ inside₂ _ => ?_
      refine (arrayElements_retains formed retentive (by omega) inside₂).start (by omega)
        fun elements s₃ _ inside₃ => .span fun span _ => .pure inside₃ fun _ _ retained => ?_
      exact .of_children retained rfl
    | leftBracket =>
      have more' := formed.more more found (by decide)
      refine .advance more fun s₁ here₁ inside₁ => .advance (by omega) fun s₂ here₂ inside₂ => ?_
      refine (arrayElements_retains formed retentive (by omega) inside₂).start (by omega)
        fun elements s₃ _ inside₃ => .span fun span _ => .pure inside₃ fun _ _ retained => ?_
      exact .of_children retained rfl
    | _ => exact throw_retains inside _
  | _ => exact throw_retains inside _

theorem structField_retains (after : lo ≤ s.index) (inside : s.index < input.tokens.size) :
    Attempt.Retains input place s.index False s grammar.structField halting.structField
      fun field => RetainedIn (input.offset place) field.expr.present := by
  refine (within_retains (tryExpression_retains retentive after inside) _).start (by omega)
    fun expr s₁ forward₁ inside₁ => ?_
  refine .accept formed inside₁ (fun _ s₂ here₂ inside₂ => ?_)
    fun _ => .pure inside₁ fun _ _ retained => retained.kept
  refine .same (within_gives (identifier_gives formed inside₂) _) fun name s₃ _ inside₃ _ => ?_
  exact .pure inside₃ fun _ _ retained => retained.kept

theorem struct_retains (more : s.index + 1 < input.tokens.size) (after : lo ≤ s.index + 1) :
    Attempt.Retains input place s.index False s grammar.struct halting.struct
      (Expr.Retained (input.offset place)) := by
  have inside : s.index < input.tokens.size := by omega
  have typed : Attempt.Gives input s (if (input.token (s.index + 1)).kind == Symbol.less then
      within "STRUCT type" (complete typeName) else do
      advance
      pure "") fun _ s' => s.index < s'.index := by
    split
    · exact within_gives (complete_gives (typeName_gives formed inside)) _
    · exact .advance more fun s₁ here₁ inside₁ => .pure inside₁ (by omega)
  refine .look rfl (.look rfl (.same typed fun typeName s₁ _ inside₁ taken => ?_))
  refine .same (expectWithin_gives formed inside₁) fun _ s₂ _ inside₂ _ => .look rfl ?_
  have fields : Attempt.Retains input place s₂.index False s₂
      (if (input.token s₂.index).kind == Symbol.rightParen then pure []
        else Attempt.commaSeparated grammar.structField)
      (if (input.token s₂.index).kind == Symbol.rightParen then pure []
        else Attempt.commaSeparated halting.structField)
      fun fields => ∃ field ∈ fields, RetainedIn (input.offset place) field.expr.present := by
    refine .ite (fun _ => .pure inside₂ nofun) fun _ => ?_
    exact Attempt.commaSeparated_retains formed (fun s after inside =>
      structField_retains formed retentive after inside) (by omega) inside₂
  refine fields.start (by omega) fun fields s₃ _ inside₃ => ?_
  refine .same (expectWithin_gives formed inside₃) fun _ s₄ _ inside₄ _ => ?_
  refine .span fun span _ => .pure inside₄ fun _ _ retained => .of_children ?_ rfl
  exact retainedIn_namedNodes.2 retained

theorem opening_retains (form : OpeningForm) (more : s.index + 1 < input.tokens.size)
    (after : lo ≤ s.index + 1) :
    Attempt.Retains input place s.index False s (grammar.opening form) (halting.opening form)
      (Expr.Retained (input.offset place)) := by
  cases form with
  | arrayLiteral => exact arrayLiteral_retains formed retentive more after
  | array => exact array_retains formed retentive more after
  | struct => exact struct_retains formed retentive more after

/-! ### Subscripts -/

omit formed retentive in
/-- An accessor word is seen in a call with one argument; whatever that call retains stands in the
argument or behind it. -/
theorem subscriptMode_retained {offset : Int} {e : Expr} (retained : e.Retained offset) :
    RetainedIn offset (subscriptMode e).2.present ∨
      (subscriptMode e).1 ≠ "" ∧ (subscriptMode e).2.span.stop.offset ≤ offset := by
  unfold subscriptMode
  split
  next head argument orderBy limit window =>
    dsimp only
    split
    next accessor =>
      refine (retained.argument argument rfl).imp_right fun later => ⟨?_, later⟩
      split
      · intro empty
        have short := congrArg String.length empty
        simp at short
      · intro (empty : Text.upper head.name = "")
        rw [empty] at accessor
        simp at accessor
    next => exact .inl retained.kept
  next => exact .inl retained.kept

include laid

theorem subscript_retains (operand : Expr) {first : Nat} (before : first ≤ s.index)
    (after : lo ≤ s.index) (inside : s.index < input.tokens.size) :
    Attempt.Retains input place first (operand.Retained (input.offset place)) s
      (grammar.subscript operand) (halting.subscript operand)
      (Expr.Retained (input.offset place)) := by
  refine (within_retains (tryExpression_retains retentive after inside) _).bind (by omega)
    fun index s₁ forward₁ inside₁ => ?_
  have accessed : index.Retained (input.offset place) → _ := subscriptMode_retained
  generalize subscriptMode index = found at accessed ⊢
  obtain ⟨mode, index'⟩ := found
  refine .same (expectWithin_gives formed inside₁) fun _ s₂ forward₂ inside₂ _ => ?_
  refine .span fun span spanned => .pure inside₂ fun _ earlier read => ?_
  rcases read with retained | ⟨_, retained⟩
  · exact .of_children (retainedIn_append.2 (.inl retained.kept)) rfl
  · rcases accessed retained with kept | ⟨worded, later⟩
    · exact .of_children (retainedIn_append.2 (.inr kept)) rfl
    · refine .of_drops ⟨worded, later, ?_⟩ rfl
      rw [spanned (by omega)]
      exact laid.offset_lt_stop earlier inside₂

theorem continuing_retains (operand : Expr) (form : ContinuingForm) {first : Nat}
    (before : first ≤ s.index) (after : lo ≤ s.index) (inside : s.index < input.tokens.size) :
    Attempt.Retains input place first (operand.Retained (input.offset place)) s
      (grammar.continuing operand form) (halting.continuing operand form)
      (Expr.Retained (input.offset place)) := by
  cases form with
  | subscript => exact subscript_retains formed laid retentive operand before after inside

/-! ### Modifiers of a star -/

omit laid

theorem replaceItem_retains (after : lo ≤ s.index) (inside : s.index < input.tokens.size) :
    Attempt.Retains input place s.index False s grammar.replaceItem halting.replaceItem
      fun item => RetainedIn (input.offset place) item.expr.present := by
  refine (within_retains (tryExpression_retains retentive after inside) _).start (by omega)
    fun expr s₁ _ inside₁ => ?_
  refine .same (expectWithin_gives formed inside₁) fun _ s₂ _ inside₂ _ => ?_
  refine .same (within_gives (identifier_gives formed inside₂) _) fun name s₃ _ inside₃ _ => ?_
  exact .pure inside₃ fun _ _ retained => retained.kept

theorem starModifier_retains (form : StarForm) (after : lo ≤ s.index)
    (inside : s.index < input.tokens.size) :
    Attempt.Retains input place s.index False s (grammar.starModifier form)
      (halting.starModifier form) fun modifier =>
        RetainedIn (input.offset place) modifier.nodes := by
  cases form with
  | except =>
    refine within_retains (.same (Attempt.expect_gives formed inside) fun _ s₁ _ inside₁ _ => ?_) _
    refine .same (identifiers_gives formed inside₁) fun columns s₂ _ inside₂ _ => ?_
    exact .same (Attempt.expect_gives formed inside₂) fun _ s₃ _ inside₃ _ => .pure inside₃ nofun
  | replace =>
    refine .same (expectWithin_gives formed inside) fun _ s₁ _ inside₁ _ => ?_
    refine (Attempt.commaSeparated_retains formed (fun s after inside =>
      replaceItem_retains formed retentive after inside) (by omega) inside₁).start (by omega)
        fun items s₂ _ inside₂ => ?_
    refine .same (expectWithin_gives formed inside₂) fun _ s₃ _ inside₃ _ => ?_
    exact .pure inside₃ fun _ _ retained => retainedIn_namedNodes.2 retained

/-! ### Pivoted sources -/

theorem pivotAggregate_retains (after : lo ≤ s.index) (inside : s.index < input.tokens.size) :
    Attempt.Retains input place s.index False s grammar.pivotAggregate halting.pivotAggregate
      fun item => RetainedIn (input.offset place) item.expr.present := by
  refine (within_retains (tryExpression_retains retentive after inside) _).start (by omega)
    fun expr s₁ _ inside₁ => ?_
  cases expr with
  | call =>
    refine .same (within_gives (trailingAlias_gives formed inside₁) _) fun name s₂ _ inside₂ _ => ?_
    exact .pure inside₂ fun _ _ retained => retained.kept
  | _ => exact throw_retains inside₁ _

theorem pivotValue_retains (after : lo ≤ s.index) (inside : s.index < input.tokens.size) :
    Attempt.Retains input place s.index False s grammar.pivotValue halting.pivotValue
      fun item => RetainedIn (input.offset place) item.expr.present := by
  refine (within_retains (tryExpression_retains retentive after inside) _).start (by omega)
    fun expr s₁ _ inside₁ => ?_
  refine .same (within_gives (trailingAlias_gives formed inside₁) _) fun name s₂ _ inside₂ _ => ?_
  exact .pure inside₂ fun _ _ retained => retained.kept

theorem pivot_retains (table : TableRef) {first : Nat} (before : first ≤ s.index)
    (after : lo ≤ s.index) (inside : s.index < input.tokens.size) :
    Attempt.Retains input place first (RetainedIn (input.offset place) table.present) s
      (grammar.pivot table) (halting.pivot table)
      fun pivoted => RetainedIn (input.offset place) pivoted.present := by
  refine .same (expectWithin_gives formed inside) fun _ s₁ _ inside₁ _ => ?_
  refine (Attempt.commaSeparated_retains formed (fun s after inside =>
    pivotAggregate_retains formed retentive after inside) (by omega) inside₁).bind (by omega)
      fun aggregates s₂ _ inside₂ => ?_
  refine .same (expectWithin_gives formed inside₂) fun _ s₃ _ inside₃ _ => ?_
  refine .same (within_gives (columnRef_gives formed inside₃) _) fun forColumn s₄ _ inside₄ _ => ?_
  refine .same (expectWithin_gives formed inside₄) fun _ s₅ _ inside₅ _ => ?_
  refine .same (expectWithin_gives formed inside₅) fun _ s₆ _ inside₆ _ => ?_
  refine (Attempt.commaSeparated_retains formed (fun s after inside =>
    pivotValue_retains formed retentive after inside) (by omega) inside₆).bind (by omega)
      fun values s₇ _ inside₇ => ?_
  refine .same (expectWithin_gives formed inside₇) fun _ s₈ _ inside₈ _ => ?_
  refine .same (expectWithin_gives formed inside₈) fun _ s₉ _ inside₉ _ => ?_
  refine .same (within_gives (trailingAlias_gives formed inside₉) _) fun aliasName t _ inside _ => ?_
  refine .span fun span _ => .pure inside fun _ _ read => ?_
  refine retainedIn_cons.2 (.inl (.of_children ?_))
  simp only [Node.children, TableRef.children, retainedIn_append, retainedIn_namedNodes]
  rcases read with (sourced | ⟨_, aggregated⟩) | ⟨_, valued⟩
  · exact .inl (.inl (.inl sourced))
  · exact .inl (.inl (.inr aggregated))
  · exact .inr valued

omit retentive in
/-- An unpivoted source reads no expression. -/
theorem unpivot_retains (table : TableRef) {first : Nat} (inside : s.index < input.tokens.size) :
    Attempt.Retains input place first (RetainedIn (input.offset place) table.present) s
      (unpivot table) (unpivot table)
      fun unpivoted => RetainedIn (input.offset place) unpivoted.present := by
  refine Attempt.Retains.same (.lift (nullRows_yields inside)) fun _ s₁ _ inside₁ _ => ?_
  refine .same (expectWithin_gives formed inside₁) fun _ s₂ _ inside₂ _ => ?_
  refine .same (valueColumns_gives formed inside₂) fun valueColumns s₃ _ inside₃ _ => ?_
  refine .same (expectWithin_gives formed inside₃) fun _ s₄ _ inside₄ _ => ?_
  refine .same (within_gives (identifier_gives formed inside₄) _) fun nameColumn s₅ _ inside₅ _ => ?_
  refine .same (expectWithin_gives formed inside₅) fun _ s₆ _ inside₆ _ => ?_
  refine .same (expectWithin_gives formed inside₆) fun _ s₇ _ inside₇ _ => ?_
  refine .same (Attempt.commaSeparated_gives formed widens_group (fun _ _ inside =>
    unpivotGroup_gives formed inside) (Nat.zero_le _) inside₇) fun groups s₈ _ inside₈ _ => ?_
  refine .same (expectWithin_gives formed inside₈) fun _ s₉ _ inside₉ _ => ?_
  refine .same (expectWithin_gives formed inside₉) fun _ t _ inside _ => ?_
  refine .same (within_gives (trailingAlias_gives formed inside) _) fun aliasName t' _ inside' _ => ?_
  refine .span fun span _ => .pure inside' fun _ _ retained => ?_
  exact retainedIn_cons.2 (.inl (.of_children (retainedIn_append.2 (.inl retained))))

theorem sourceForm_retains (table : TableRef) (form : SourceForm) {first : Nat}
    (before : first ≤ s.index) (after : lo ≤ s.index) (inside : s.index < input.tokens.size) :
    Attempt.Retains input place first (RetainedIn (input.offset place) table.present) s
      (grammar.sourceForm table form) (halting.sourceForm table form)
      fun applied => RetainedIn (input.offset place) applied.present := by
  cases form with
  | pivot => exact pivot_retains formed retentive table before after inside
  | unpivot => exact unpivot_retains formed table inside

end Grammar

end QueryLint
