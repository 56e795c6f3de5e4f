import QueryLint.Proofs.Parser.Phrases

/-!
What the special forms of a dialect read.
-/

namespace QueryLint

open QueryLint.Parser QueryLint.Attempt

namespace Grammar

variable {input : ParserInput} (formed : input.WellFormed) {grammar : Grammar} {lo : Nat}
  (sound : grammar.Sound input lo) {s : ParserState}

include sound in
theorem tryExpression_gives (after : lo ≤ s.index) (inside : s.index < input.tokens.size) :
    Attempt.Gives input s grammar.tryExpression fun e s' => e.Covers input s.index s'.index :=
  complete_gives (sound.expression after inside)

theorem widens_named : Widens fun i j (item : NamedExpr) => item.expr.Placed input i j :=
  fun _ _ _ _ _ after before placed => placed.widen after before

theorem widens_column :
    Widens fun i j (ref : ColumnRef) => Within input i j (.node (.expr (.column ref))) :=
  fun _ _ _ _ _ after before within => within.widen after before

include formed sound

/-! ### Arrays and structures -/

theorem arrayElements_gives (after : lo ≤ s.index) (inside : s.index < input.tokens.size) :
    Attempt.Gives input s grammar.arrayElements fun elements s' =>
      s.index < s'.index ∧ ∀ e ∈ elements, e.Placed input s.index s'.index := by
  have elements : Attempt.Gives input s (if (input.token s.index).kind == Symbol.rightBracket then
      pure [] else Attempt.commaSeparated (within "array literal" grammar.tryExpression))
      fun elements s' => ∀ e ∈ elements, e.Placed input s.index s'.index := by
    split
    · exact .pure inside nofun
    · refine (Attempt.commaSeparated_gives formed widens_placed (fun s after inside => ?_) after
        inside).mono fun _ _ _ read => read.2
      exact (within_gives (tryExpression_gives sound after inside) _).mono
        fun _ _ _ read => read.placed (Nat.le_refl _) (Nat.le_refl _)
  refine .look rfl (elements.bind fun elements s₁ forward₁ inside₁ read => ?_)
  refine (expectWithin_gives formed inside₁).bind fun _ s₂ forward₂ inside₂ ⟨_, here₂⟩ => ?_
  exact .pure inside₂ ⟨by omega, fun e member => (read e member).widen (Nat.le_refl _) forward₂⟩

omit formed sound in
theorem covers_array {elements : List Expr} {span : Span} {typeName : String} {i i' j : Nat}
    (nonempty : i < j) (spanned : span = input.cover i j) (after : i ≤ i')
    (read : ∀ e ∈ elements, e.Placed input i' j) :
    (Expr.array span typeName elements).Covers input i j :=
  .intro nonempty spanned (fun e member => (read e member).1)
    (allWithin_exprNodes fun e member => (read e member).widen after (Nat.le_refl _))

theorem arrayLiteral_gives (more : s.index + 1 < input.tokens.size) (after : lo ≤ s.index + 1) :
    Attempt.Gives input s grammar.arrayLiteral fun e s' => e.Covers input s.index s'.index := by
  refine .look rfl (.advance more fun s₁ here₁ inside₁ => ?_)
  refine (arrayElements_gives formed sound (by omega) inside₁).bind
    fun elements s₂ forward₂ inside₂ ⟨_, read⟩ => .span fun span spanned => ?_
  exact .pure inside₂ (covers_array (by omega) (spanned (by omega)) (by omega) read)

theorem array_gives (more : s.index + 1 < input.tokens.size) (after : lo ≤ s.index + 1) :
    Attempt.Gives input s grammar.array fun e s' => e.Covers input s.index s'.index := by
  have inside : s.index < input.tokens.size := by omega
  refine .look rfl (.look rfl ?_)
  split
  next found =>
    have more' := formed.more more found (by decide)
    refine .advance more fun s₁ here₁ inside₁ => .advance (by omega) fun s₂ here₂ inside₂ => ?_
    refine (within_gives (complete_gives (sound.query s₂ (by omega) inside₂)) _).bind
      fun query s₃ forward₃ inside₃ read => ?_
    refine (expectWithin_gives formed inside₃).bind
      fun _ s₄ forward₄ inside₄ _ => .span fun span spanned => ?_
    refine .pure inside₄ (.intro (by omega) (spanned (by omega)) trivial ?_)
    exact allWithin_singleton.2 (read.within (by omega) (by omega))
  next =>
    refine (within_gives (complete_gives (typeName_gives formed inside)) _).bind
      fun typeName s₁ forward₁ inside₁ taken => ?_
    refine (expectWithin_gives formed inside₁).bind fun _ s₂ forward₂ inside₂ _ => ?_
    refine (arrayElements_gives formed sound (by omega) inside₂).bind
      fun elements s₃ forward₃ inside₃ ⟨_, read⟩ => .span fun span spanned => ?_
    exact .pure inside₃ (covers_array (by omega) (spanned (by omega)) (by omega) read)
  next found =>
    have more' := formed.more more found (by decide)
    refine .advance more fun s₁ here₁ inside₁ => .advance (by omega) fun s₂ here₂ inside₂ => ?_
    refine (arrayElements_gives formed sound (by omega) inside₂).bind
      fun elements s₃ forward₃ inside₃ ⟨_, read⟩ => .span fun span spanned => ?_
    exact .pure inside₃ (covers_array (by omega) (spanned (by omega)) (by omega) read)
  next => exact throw_gives inside _

theorem structField_gives (after : lo ≤ s.index) (inside : s.index < input.tokens.size) :
    Attempt.Gives input s grammar.structField fun field s' =>
      field.expr.Placed input s.index s'.index := by
  refine (within_gives (tryExpression_gives sound after inside) _).bind
    fun expr s₁ forward₁ inside₁ read => ?_
  refine .accept formed inside₁ (fun _ s₂ here₂ inside₂ => ?_) fun _ => ?_
  · refine (within_gives (identifier_gives formed inside₂) _).bind
      fun name s₃ forward₃ inside₃ _ => ?_
    exact .pure inside₃ (read.placed (Nat.le_refl _) (by omega))
  · exact .pure inside₁ (read.placed (Nat.le_refl _) (Nat.le_refl _))

theorem struct_gives (more : s.index + 1 < input.tokens.size) (after : lo ≤ s.index + 1) :
    Attempt.Gives input s grammar.struct fun e s' => e.Covers input s.index s'.index := by
  have inside : s.index < input.tokens.size := by omega
  have typed : Attempt.Gives input s (if (input.token (s.index + 1)).kind == Symbol.less then
      within "STRUCT type" (complete typeName) else do
      advance
      pure "") fun _ s' => s.index < s'.index := by
    split
    · exact within_gives (complete_gives (typeName_gives formed inside)) _
    · exact .advance more fun s₁ here₁ inside₁ => .pure inside₁ (by omega)
  refine .look rfl (.look rfl (typed.bind fun typeName s₁ forward₁ inside₁ taken => ?_))
  refine (expectWithin_gives formed inside₁).bind fun _ s₂ forward₂ inside₂ _ => .look rfl ?_
  have fields : Attempt.Gives input s₂ (if (input.token s₂.index).kind == Symbol.rightParen then
      pure [] else Attempt.commaSeparated grammar.structField) fun fields s' =>
      ∀ field ∈ fields, field.expr.Placed input s₂.index s'.index := by
    split
    · exact .pure inside₂ nofun
    · exact (Attempt.commaSeparated_gives formed widens_named
        (fun _ after inside => structField_gives formed sound after inside) (by omega)
          inside₂).mono fun _ _ _ read => read.2
  refine fields.bind fun fields s₃ forward₃ inside₃ read => ?_
  refine (expectWithin_gives formed inside₃).bind
    fun _ s₄ forward₄ inside₄ _ => .span fun span spanned => ?_
  refine .pure inside₄ (.intro (by omega) (spanned (by omega))
    (fun field member => (read field member).1) (allWithin_namedNodes fun field member => ?_))
  exact (read field member).widen (by omega) (by omega)

theorem opening_gives (form : OpeningForm) (more : s.index + 1 < input.tokens.size)
    (after : lo ≤ s.index + 1) :
    Attempt.Gives input s (grammar.opening form) fun e s' => e.Covers input s.index s'.index := by
  cases form with
  | arrayLiteral => exact arrayLiteral_gives formed sound more after
  | array => exact array_gives formed sound more after
  | struct => exact struct_gives formed sound more after

/-! ### Subscripts -/

omit formed sound in
theorem subscriptMode_placed {e : Expr} {i j : Nat} (read : e.Covers input i j) :
    (subscriptMode e).2.Placed input i j := by
  unfold subscriptMode
  split
  next head argument orderBy limit window =>
    dsimp only
    split
    · have present : argument.isMissing = false :=
        read.2.whole.1 argument (List.mem_singleton_self _)
      have listed : Node.expr argument ∈ exprNodes [argument] := by
        rw [exprNodes, List.flatMap_singleton, argument.present_eq present]
        exact List.mem_singleton_self _
      refine ⟨present, read.2.below _ (List.mem_map_of_mem ?_)⟩
      simp only [Node.children, Expr.children, List.mem_append]
      exact .inl (.inl (.inl listed))
    · exact read.placed (Nat.le_refl _) (Nat.le_refl _)
  next => exact read.placed (Nat.le_refl _) (Nat.le_refl _)

theorem subscript_gives {operand : Expr} {i j : Nat} (operated : operand.Covers input i j)
    (before : j ≤ s.index) (after : lo ≤ s.index) (inside : s.index < input.tokens.size) :
    Attempt.Gives input s (grammar.subscript operand) fun e s' => e.Covers input i s'.index := by
  have nonempty := operated.2.nonempty
  refine (within_gives (tryExpression_gives sound after inside) _).bind
    fun place s₁ forward₁ inside₁ read => ?_
  have placed := subscriptMode_placed read
  generalize subscriptMode place = accessed at placed ⊢
  obtain ⟨mode, index⟩ := accessed
  refine (expectWithin_gives formed inside₁).bind
    fun _ s₂ forward₂ inside₂ _ => .span fun span spanned => ?_
  refine .pure inside₂ (.intro (by omega) (operated.extend (by omega) spanned)
    ⟨operated.1, placed.1⟩ ?_)
  exact allWithin_append.2 ⟨(operated.placed (Nat.le_refl _) (by omega)).present,
    (placed.widen (by omega) (by omega)).present⟩

theorem continuing_gives {operand : Expr} {i j : Nat} (operated : operand.Covers input i j)
    (before : j ≤ s.index) (form : ContinuingForm) (after : lo ≤ s.index)
    (inside : s.index < input.tokens.size) :
    Attempt.Gives input s (grammar.continuing operand form) fun e s' =>
      e.Covers input i s'.index := by
  cases form with
  | subscript => exact subscript_gives formed sound operated before after inside

/-! ### Modifiers of a star -/

def ModifierPlaced (input : ParserInput) (i j : Nat) (modifier : StarModifier) : Prop :=
  modifier.Whole ∧ AllWithin input i j modifier.nodes

omit sound in
theorem exceptModifier_gives (inside : s.index < input.tokens.size) :
    Attempt.Gives input s exceptModifier fun modifier s' =>
      ModifierPlaced input s.index s'.index modifier := by
  refine within_gives (Attempt.Gives.bind (Attempt.expect_gives formed inside)
    fun _ s₁ forward₁ inside₁ _ => ?_) _
  refine (identifiers_gives formed inside₁).bind fun columns s₂ forward₂ inside₂ _ => ?_
  refine (Attempt.expect_gives formed inside₂).bind fun _ s₃ _ inside₃ _ => ?_
  exact .pure inside₃ ⟨trivial, allWithin_nil⟩

theorem replaceItem_gives (after : lo ≤ s.index) (inside : s.index < input.tokens.size) :
    Attempt.Gives input s grammar.replaceItem fun item s' =>
      item.expr.Placed input s.index s'.index := by
  refine (within_gives (tryExpression_gives sound after inside) _).bind
    fun expr s₁ forward₁ inside₁ read => ?_
  refine (expectWithin_gives formed inside₁).bind fun _ s₂ forward₂ inside₂ _ => ?_
  refine (within_gives (identifier_gives formed inside₂) _).bind
    fun name s₃ forward₃ inside₃ _ => ?_
  exact .pure inside₃ (read.placed (Nat.le_refl _) (by omega))

theorem replaceModifier_gives (after : lo ≤ s.index) (inside : s.index < input.tokens.size) :
    Attempt.Gives input s grammar.replaceModifier fun modifier s' =>
      ModifierPlaced input s.index s'.index modifier := by
  refine (expectWithin_gives formed inside).bind fun _ s₁ forward₁ inside₁ _ => ?_
  refine (Attempt.commaSeparated_gives formed widens_named
    (fun _ after inside => replaceItem_gives formed sound after inside) (by omega)
      inside₁).bind fun items s₂ forward₂ inside₂ ⟨_, read⟩ => ?_
  refine (expectWithin_gives formed inside₂).bind fun _ s₃ forward₃ inside₃ _ => ?_
  exact .pure inside₃ ⟨fun item member => (read item member).1,
    allWithin_namedNodes fun item member => (read item member).widen (by omega) (by omega)⟩

theorem starModifier_gives (form : StarForm) (after : lo ≤ s.index)
    (inside : s.index < input.tokens.size) :
    Attempt.Gives input s (grammar.starModifier form) fun modifier s' =>
      ModifierPlaced input s.index s'.index modifier := by
  cases form with
  | except => exact exceptModifier_gives formed inside
  | replace => exact replaceModifier_gives formed sound after inside

/-! ### Pivoted sources -/

omit sound in
theorem trailingAlias_gives (inside : s.index < input.tokens.size) :
    Attempt.Gives input s trailingAlias fun _ _ => True := by
  refine .accept formed inside (fun _ s₁ _ inside₁ => ?_) fun _ => .look rfl ?_
  · exact (identifier_gives formed inside₁).mono fun _ _ _ _ => trivial
  · split
    next word =>
      exact .advance (formed.more inside (beq_iff_eq.1 word) (by decide))
        fun _ _ inside => .pure inside trivial
    next => exact .pure inside trivial

theorem pivotAggregate_gives (after : lo ≤ s.index) (inside : s.index < input.tokens.size) :
    Attempt.Gives input s grammar.pivotAggregate fun item s' =>
      item.expr.Placed input s.index s'.index := by
  refine (within_gives (tryExpression_gives sound after inside) _).bind
    fun expr s₁ forward₁ inside₁ read => ?_
  split
  · refine (within_gives (trailingAlias_gives formed inside₁) _).bind
      fun name s₂ forward₂ inside₂ _ => ?_
    exact .pure inside₂ (read.placed (Nat.le_refl _) forward₂)
  · exact throw_gives inside₁ _

theorem pivotValue_gives (after : lo ≤ s.index) (inside : s.index < input.tokens.size) :
    Attempt.Gives input s grammar.pivotValue fun item s' =>
      item.expr.Placed input s.index s'.index := by
  refine (within_gives (tryExpression_gives sound after inside) _).bind
    fun expr s₁ forward₁ inside₁ read => ?_
  refine (within_gives (trailingAlias_gives formed inside₁) _).bind
    fun name s₂ forward₂ inside₂ _ => ?_
  exact .pure inside₂ (read.placed (Nat.le_refl _) forward₂)

theorem pivot_gives {source : TableRef} {i j : Nat} (before : j ≤ s.index) (after : lo ≤ s.index)
    (inside : s.index < input.tokens.size) :
    Attempt.Gives input s (grammar.pivot source) fun table s' =>
      source.Covers input i j → table.Covers input i s'.index := by
  refine (expectWithin_gives formed inside).bind fun _ s₁ forward₁ inside₁ _ => ?_
  refine (Attempt.commaSeparated_gives formed widens_named
    (fun _ after inside => pivotAggregate_gives formed sound after inside) (by omega)
      inside₁).bind fun aggregates s₂ forward₂ inside₂ ⟨_, aggregated⟩ => ?_
  refine (expectWithin_gives formed inside₂).bind fun _ s₃ forward₃ inside₃ _ => ?_
  refine (within_gives (columnRef_gives formed inside₃) _).bind
    fun forColumn s₄ forward₄ inside₄ column => ?_
  refine (expectWithin_gives formed inside₄).bind fun _ s₅ forward₅ inside₅ _ => ?_
  refine (expectWithin_gives formed inside₅).bind fun _ s₆ forward₆ inside₆ _ => ?_
  refine (Attempt.commaSeparated_gives formed widens_named
    (fun _ after inside => pivotValue_gives formed sound after inside) (by omega)
      inside₆).bind fun values s₇ forward₇ inside₇ ⟨_, valued⟩ => ?_
  refine (expectWithin_gives formed inside₇).bind fun _ s₈ forward₈ inside₈ _ => ?_
  refine (expectWithin_gives formed inside₈).bind fun _ s₉ forward₉ inside₉ _ => ?_
  refine (within_gives (trailingAlias_gives formed inside₉) _).bind
    fun aliasName t forward inside _ => .span fun span spanned => ?_
  refine .pure inside fun sourced => ?_
  have nonempty := sourced.2.nonempty
  refine .intro (by omega) (sourced.extend (by omega) spanned) ?_ ?_
  · exact ⟨sourced.1, fun item member => (aggregated item member).1,
      fun item member => (valued item member).1⟩
  · simp only [TableRef.children, allWithin_append]
    refine ⟨⟨⟨(sourced.placed (Nat.le_refl _) (by omega)).present, allWithin_namedNodes
      fun item member => ?_⟩, allWithin_columnNodes fun ref member => ?_⟩, allWithin_namedNodes
      fun item member => ?_⟩
    · exact (aggregated item member).widen (by omega) (by omega)
    · rw [List.mem_singleton.1 member]
      exact column.within (by omega) (by omega)
    · exact (valued item member).widen (by omega) (by omega)

omit formed sound in
theorem nullRows_yields (inside : s.index < input.tokens.size) :
    Yields input s nullRows fun _ s' => s'.errors = s.errors ∧ True := by
  refine .look rfl (.look rfl ?_)
  split
  · dsimp only
    split
    · exact (advanceTwice_yields inside).mono fun _ _ _ clean => ⟨clean, trivial⟩
    · exact ⟨_, _, rfl, .refl inside, rfl, trivial⟩
  · exact ⟨_, _, rfl, .refl inside, rfl, trivial⟩

omit sound in
theorem valueColumns_gives (inside : s.index < input.tokens.size) :
    Attempt.Gives input s valueColumns fun _ _ => True := by
  refine .accept formed inside (fun _ s₁ _ inside₁ => ?_) fun _ => ?_
  · have any : Widens fun _ _ (_ : String) => True := fun _ _ _ _ _ _ _ _ => trivial
    refine (Attempt.commaSeparated_gives formed any (fun _ _ inside =>
      (within_gives (identifier_gives formed inside) _).mono fun _ _ _ _ => trivial)
        (Nat.zero_le _) inside₁).bind fun names s₂ _ inside₂ _ => ?_
    refine (expectWithin_gives formed inside₂).bind fun _ s₃ _ inside₃ _ => ?_
    exact .pure inside₃ trivial
  · refine (within_gives (identifier_gives formed inside) _).bind fun name s₁ _ inside₁ _ => ?_
    exact .pure inside₁ trivial

omit sound in
theorem groupLabel_gives (inside : s.index < input.tokens.size) :
    Attempt.Gives input s groupLabel fun _ _ => True := by
  refine .accept formed inside (fun _ s₁ _ inside₁ => .look rfl ?_) fun _ => .pure inside trivial
  split
  next constant =>
    have more : s₁.index + 1 < input.tokens.size := by
      refine formed.more inside₁ rfl fun last => ?_
      simp [last] at constant
    exact .advance more fun _ _ inside => .pure inside trivial
  next => exact (within_gives (identifier_gives formed inside₁) _).mono fun _ _ _ _ => trivial

omit sound in
theorem groupColumns_gives (inside : s.index < input.tokens.size) :
    Attempt.Gives input s groupColumns fun columns s' =>
      ∀ ref ∈ columns, Within input s.index s'.index (.node (.expr (.column ref))) := by
  refine .accept formed inside (fun _ s₁ here₁ inside₁ => ?_) fun _ => ?_
  · refine (Attempt.commaSeparated_gives formed widens_column (fun _ _ inside =>
      (within_gives (columnRef_gives formed inside) _).mono
        fun _ _ _ read => read.within (Nat.le_refl _) (Nat.le_refl _))
          (Nat.zero_le _) inside₁).bind fun columns s₂ forward₂ inside₂ ⟨_, read⟩ => ?_
    refine (expectWithin_gives formed inside₂).bind fun _ s₃ forward₃ inside₃ _ => ?_
    exact .pure inside₃ fun ref member => (read ref member).widen (by omega) (by omega)
  · refine (within_gives (columnRef_gives formed inside) _).bind
      fun column s₁ forward₁ inside₁ read => .pure inside₁ fun ref member => ?_
    rw [List.mem_singleton.1 member]
    exact read.within (Nat.le_refl _) (Nat.le_refl _)

omit formed sound in
theorem widens_group : Widens fun i j (group : UnpivotGroup) =>
    ∀ ref ∈ group.columns, Within input i j (.node (.expr (.column ref))) :=
  fun _ _ _ _ _ after before within ref member => (within ref member).widen after before

omit sound in
theorem unpivotGroup_gives (inside : s.index < input.tokens.size) :
    Attempt.Gives input s unpivotGroup fun group s' =>
      ∀ ref ∈ group.columns, Within input s.index s'.index (.node (.expr (.column ref))) := by
  refine (groupColumns_gives formed inside).bind fun columns s₁ forward₁ inside₁ read => ?_
  refine (groupLabel_gives formed inside₁).bind fun label s₂ forward₂ inside₂ _ => ?_
  exact .pure inside₂ fun ref member => (read ref member).widen (Nat.le_refl _) forward₂

omit sound in
theorem unpivot_gives {source : TableRef} {i j : Nat} (before : j ≤ s.index)
    (inside : s.index < input.tokens.size) :
    Attempt.Gives input s (unpivot source) fun table s' =>
      source.Covers input i j → table.Covers input i s'.index := by
  refine Attempt.Gives.bind (.lift (nullRows_yields inside)) fun _ s₁ forward₁ inside₁ _ => ?_
  refine (expectWithin_gives formed inside₁).bind fun _ s₂ forward₂ inside₂ _ => ?_
  refine (valueColumns_gives formed inside₂).bind fun valueColumns s₃ forward₃ inside₃ _ => ?_
  refine (expectWithin_gives formed inside₃).bind fun _ s₄ forward₄ inside₄ _ => ?_
  refine (within_gives (identifier_gives formed inside₄) _).bind
    fun nameColumn s₅ forward₅ inside₅ _ => ?_
  refine (expectWithin_gives formed inside₅).bind fun _ s₆ forward₆ inside₆ _ => ?_
  refine (expectWithin_gives formed inside₆).bind fun _ s₇ forward₇ inside₇ _ => ?_
  refine (Attempt.commaSeparated_gives formed widens_group (fun _ _ inside =>
    unpivotGroup_gives formed inside) (Nat.zero_le _) inside₇).bind
      fun groups s₈ forward₈ inside₈ ⟨_, read⟩ => ?_
  refine (expectWithin_gives formed inside₈).bind fun _ s₉ forward₉ inside₉ _ => ?_
  refine (expectWithin_gives formed inside₉).bind fun _ t forward inside _ => ?_
  refine (within_gives (trailingAlias_gives formed inside) _).bind
    fun aliasName t' forward' inside' _ => .span fun span spanned => ?_
  refine .pure inside' fun sourced => ?_
  have nonempty := sourced.2.nonempty
  refine .intro (by omega) (sourced.extend (by omega) spanned) sourced.1 ?_
  simp only [TableRef.children, allWithin_append]
  refine ⟨(sourced.placed (Nat.le_refl _) (by omega)).present, .flatMap fun group member => ?_⟩
  exact allWithin_columnNodes fun ref listed =>
    (read group member ref listed).widen (by omega) (by omega)

theorem sourceForm_gives {source : TableRef} {i j : Nat} (before : j ≤ s.index) (form : SourceForm)
    (after : lo ≤ s.index) (inside : s.index < input.tokens.size) :
    Attempt.Gives input s (grammar.sourceForm source form) fun table s' =>
      source.Covers input i j → table.Covers input i s'.index := by
  cases form with
  | pivot => exact pivot_gives formed sound before after inside
  | unpivot => exact unpivot_gives formed before inside

end Grammar

end QueryLint
