import QueryLint.Parser.Source
import QueryLint.Proofs.Parser.Lockstep.Sources
import QueryLint.Proofs.Parser.Pairing.Expressions

/-!
Sources of rows pair their parentheses. A segment of a table path that follows a dot behind dashes is
taken without a look at it.
-/

namespace QueryLint

open QueryLint.Parser

namespace Grammar

variable {input : ParserInput} {s : ParserState} {grammar : Grammar} (paired : grammar.Paired input)
  (plain : input.Plain)

/-! ### Tables -/

theorem dashed_pairs (bound : Nat) (segment : PathSegment) :
    Pairs input s 0 (dashed bound segment) 0 := by
  induction bound generalizing s segment with
  | zero => exact .exhausted
  | succ bound ih =>
    refine .look rfl (.look rfl (.ite (fun touches => ?_) fun _ => .pure))
    simp only [Bool.and_eq_true, Bool.or_eq_true, beq_iff_eq] at touches
    obtain ⟨⟨⟨dash, -⟩, -⟩, name | number⟩ := touches
    · exact .advanceTwice (TokenKind.unpaired_of_eq dash) (TokenKind.unpaired_of_eq name) fun _ => ih _
    · exact .advanceTwice (TokenKind.unpaired_of_eq dash) (TokenKind.unpaired_of_eq number) fun _ => ih _

/-- The segment behind a dot that follows dashes is taken without a look at it. -/
theorem tablePath_pairs (word : (input.token s.index).isWord = true) :
    Pairs input s 0 tablePath 0 := by
  refine .bind (path_pairs fun _ => .passes (Token.unpaired_of_isWord word)) fun path s => ?_
  cases path with
  | nil => exact .pure
  | cons first others =>
    refine .skip fun _ _ => .bind (dashed_pairs _ _) fun first s => ?_
    refine .acceptPlain (fun dot s' here => ?_) fun _ => .pure
    refine .bind (path_pairs fun _ => .skips ?_) fun _ _ => .pure
    rw [here]
    exact .segment dot

include paired

include plain in
theorem systemTime_pairs : Pairs input s 0 grammar.systemTime 0 := by
  refine .look rfl (.look rfl (.ite (fun both => ?_) fun _ => .pure))
  obtain ⟨first, second⟩ := Bool.and_eq_true_iff.1 both
  refine .advanceTwice (plain.unpaired_of_spells (by decide) (by decide) first)
    (plain.unpaired_of_spells (by decide) (by decide) second) fun s => .expectedPlain fun s => ?_
  refine .look rfl (.ite (fun word => ?_) fun _ => .flat)
  refine .advance (plain.unpaired_of_spells (by decide) (by decide) word) fun _ _ => ?_
  exact Pairs.discard (paired.expression _)

theorem tableFunction_pairs (start : Position) (path : List PathSegment) :
    Pairs input s 0 (grammar.tableFunction start path) 0 := by
  refine .bind (call_pairs paired _ _) fun _ _ => .bind aliasName_pairs fun _ _ => ?_
  refine .look rfl (.look rfl (.ite (fun both => ?_) fun _ => .flat))
  obtain ⟨followed, offset⟩ := Bool.and_eq_true_iff.1 both
  refine .advanceTwice (TokenKind.unpaired_of_eq (beq_iff_eq.1 followed))
    (TokenKind.unpaired_of_eq (beq_iff_eq.1 offset)) fun _ => ?_
  exact .bind aliasName_pairs fun _ _ => .flat

include plain in
theorem plainSource_pairs : Pairs input s 0 grammar.plainSource 0 := by
  refine .skip fun _ _ => .acceptOpen (fun _ => ?_) (.look rfl (.ite (fun _ => .failed) fun word => ?_))
  · refine .seq (paired.query _) fun _ _ => .expectedClose fun _ => ?_
    exact .bind aliasName_pairs fun _ _ => .flat
  · refine .bind (tablePath_pairs (by simpa using word)) fun _ _ => .skip fun _ _ => ?_
    refine .ite (fun _ => tableFunction_pairs paired _ _) fun _ => ?_
    refine .bind (systemTime_pairs paired plain) fun _ _ => ?_
    exact .bind aliasName_pairs fun _ _ => .flat

include plain in
theorem sourceForms_pairs (bound : Nat) (source : TableRef) :
    Pairs input s 0 (grammar.sourceForms bound source) 0 := by
  induction bound generalizing s source with
  | zero => exact .exhausted
  | succ bound ih =>
    refine .look rfl (.look rfl ?_)
    split
    · exact .pure
    next form found =>
      refine .advance (Dialect.unpaired_of_sourceForm? (plain.bigQuery ▸ found)) fun _ _ => ?_
      refine .bind (Attempt.orNote_pairs (sourceForm_pairs paired _ form)) fun applied _ => ?_
      cases applied with
      | some applied => exact ih applied
      | none => exact .pure

include plain in
theorem tableRef_pairs : Pairs input s 0 grammar.tableRef 0 := by
  refine .bind (plainSource_pairs paired plain) fun source s => ?_
  cases source with
  | missing => exact .pure
  | table | derived | function | pivot | unpivot =>
    exact .skip fun _ _ => sourceForms_pairs paired plain _ _

/-! ### Joins -/

omit paired in
theorem joinColumns_pairs : Pairs input s 0 joinColumns 0 := by
  refine .expect (fun found _ => .opens found) (fun _ => .bindWith (PairsIf.among ?_)
    (fun _ _ => Attempt.orNote_isSome) fun columns _ there => ?_) fun _ => .pure
  · exact Attempt.orNote_pairs (Attempt.commaSeparated_pairs fun _ => Attempt.columnRef_pairs)
  · cases columns with
    | some columns => exact .expectedClose fun _ => .pure
    | none => exact .noted fun clean => nomatch there clean

omit paired in
theorem usingColumns_pairs (allowed : Bool) : Pairs input s 0 (usingColumns allowed) 0 :=
  .ite (fun _ => .skip fun _ _ => .ite (fun _ => joinColumns_pairs) fun _ => .pure) fun _ => .pure

omit paired in
include plain in
theorem joinKind_pairs (natural : Bool) : Pairs input s 0 (joinKind natural) 0 := by
  refine .skip fun _ _ => .ite (fun _ => .pure) fun _ => .look rfl (.look rfl ?_)
  split
  next rule found =>
    rw [plain.bigQuery] at found
    refine .advance (Dialect.unpaired_of_join? found) fun _ _ => ?_
    have optional : Flat (rule.optional.elim (pure false) accept) := by
      cases word : rule.optional with
      | none => exact Flat.pure false
      | some word' =>
        obtain rfl := Dialect.bigQuery_join_optional found word
        exact Flat.accept _
    exact .skip fun _ _ => .flat
  next => exact .flat

include plain

theorem joinTo_pairs (start : Position) (kind : JoinKind) (natural allowsUsing : Bool) :
    Pairs input s 0 (grammar.joinTo start kind natural allowsUsing) 0 := by
  refine .bind (tableRef_pairs paired plain) fun _ _ => .skip fun _ _ => .ite (fun _ => ?_) fun _ => ?_
  · exact .bind (paired.expression _) fun _ _ => .flat
  · exact .bind (usingColumns_pairs allowsUsing) fun _ _ => .flat

theorem join_pairs : Pairs input s 0 grammar.join 0 := by
  refine .skip fun start _ => .skip fun _ _ => .ite (fun _ => ?_) fun _ => .skip fun natural _ => ?_
  · exact .bind (tableRef_pairs paired plain) fun _ _ => .flat
  · refine .bind (joinKind_pairs plain natural) fun found _ => ?_
    match found with
    | none => exact .pure
    | some (kind, none) => exact .pure
    | some (kind, some allowsUsing) =>
      exact .bind (joinTo_pairs paired plain start kind natural allowsUsing) fun _ _ => .pure

theorem fromClause_pairs : Pairs input s 0 grammar.fromClause 0 := by
  refine .skip fun _ _ => .skip fun _ _ => .bind (tableRef_pairs paired plain) fun _ _ => ?_
  refine .skip fun _ _ => .bind (repeated_pairs (fun _ => ?_) _) fun _ _ => .flat
  exact .skip fun _ _ => .ite (fun _ => .pure) fun _ => join_pairs paired plain

end Grammar

end QueryLint
