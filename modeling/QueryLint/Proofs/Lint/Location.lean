import QueryLint.Lint.Source
import QueryLint.Proofs.Lint.Ordering
import QueryLint.Proofs.Parser.Failures
import QueryLint.Proofs.Parser.Positions
import QueryLint.Proofs.Syntax.Addresses
import QueryLint.Proofs.Usage.ColumnSpans

/-!
Where diagnostics stand. A rule reports at a place of the tree that it is given (`Rule.finds_kept`), and
the places of a tree are those of tokens; so every diagnostic of a source either has no place or stands
at an offset of the source (`Linter.start_of_mem_lint`).
-/

namespace QueryLint

open Text (Bytes)
open QueryLint.Usage

/-! ### Rules -/

section Rules

variable {place : Position → Position} {query : Query}

theorem Fixes.block (fixes : Fixes place (Node.query query)) {block : SelectBlock}
    (member : block ∈ query.blocks) : Fixes place (Node.block block) :=
  fixes.walk _ (Node.mem_blocks_iff.1 member)

theorem CurrentDate.check_kept (fixes : Fixes place (Node.query query)) (dialect : Option Dialect)
    (settings : Settings) : ∀ finding ∈ check query dialect settings, finding.span.Kept place := by
  intro finding member
  obtain ⟨node, listed, rfl⟩ := List.mem_map.1 member
  exact (fixes.walk _ (List.mem_of_mem_filter listed)).span

theorem Grouping.check_kept (fixes : Fixes place (Node.query query)) (dialect : Option Dialect)
    (settings : Settings) : ∀ finding ∈ check query dialect settings, finding.span.Kept place := by
  intro finding member
  obtain ⟨block, listed, member⟩ := List.mem_flatMap.1 member
  unfold checkBlock at member
  split at member
  · cases member
  · obtain ⟨⟨item, number⟩, numbered, found⟩ := List.mem_filterMap.1 member
    have own : Fixes place item :=
      (fixes.block listed).items.mem (List.fst_mem_of_mem_zipIdx numbered)
    cases item with
    | expr _ e aliasName _ =>
      have read : Fixes place (Node.expr e) :=
        Fixes.expr fun node present => own.itemNodes.mem present
      simp only [checkItem?] at found
      split at found
      · cases found
      · obtain ⟨ref, first, rfl⟩ := Option.map_eq_some_iff.1 found
        obtain ⟨node, walked, isRef⟩ := List.mem_filterMap.1 (List.mem_of_find?_eq_some first)
        obtain rfl := Node.eq_of_columnRef? isRef
        exact (read.walk _ walked).span
    | _ => cases found

theorem Ordering.check_kept (fixes : Fixes place (Node.query query)) (dialect : Option Dialect)
    (settings : Settings) : ∀ finding ∈ check query dialect settings, finding.span.Kept place := by
  intro finding member
  obtain ⟨outer, block, reported, rfl⟩ := (mem_check_iff dialect settings finding).1 member
  have below {outer : List Node} {node : Node} (occurs : Occurs query outer node) : Fixes place node := by
    induction occurs with
    | root => exact fixes
    | next _ member ih => exact ih.child member
  have moved := congrArg SelectBlock.orderByPosition (Node.block.inj (below reported.occurs))
  obtain ⟨_, _, _, _, _, _, _, _, _, _, _, _, _, _, _⟩ := block
  exact .inr moved

theorem TableSuffix.fixes_unwrap {e : Expr} (fixes : Fixes place (Node.expr e)) :
    Fixes place (Node.expr e.unwrap) := by
  fun_induction Expr.unwrap e with
  | case1 span inner ih => exact ih (Fixes.expr fun node present => fixes.child present)
  | case2 bare => exact fixes

theorem TableSuffix.subquerySpan_kept {e : Expr} (fixes : Fixes place (Node.expr e)) {span : Span}
    (found : subquerySpan? e = some span) : span.Kept place := by
  have bare := (fixes_unwrap fixes).span
  unfold subquerySpan? at found
  split at found
  next shape =>
    cases found
    rw [shape] at bare
    exact bare
  next => cases found

theorem TableSuffix.offence_kept {node : Node} (fixes : Fixes place node) {span : Span}
    (found : offence? node = some span) : span.Kept place := by
  unfold offence? at found
  split at found
  next left operator right =>
    split at found
    · exact subquerySpan_kept (Fixes.expr fun node present => fixes.child (by
        simp [Node.children, Expr.children, present])) found
    · cases found
  next operand _ inner =>
    split at found
    · cases found
      have nested : Fixes place (Node.query inner) :=
        fixes.child (by simp [Node.children, Expr.children])
      exact nested.span
    · cases found
  next operand _ low high =>
    split at found
    · rcases Option.or_eq_some_iff.1 found with first | ⟨-, second⟩
      · exact subquerySpan_kept (Fixes.expr fun node present => fixes.child (by
          simp [Node.children, Expr.children, present])) first
      · exact subquerySpan_kept (Fixes.expr fun node present => fixes.child (by
          simp [Node.children, Expr.children, present])) second
    · cases found
  next => cases found

theorem TableSuffix.check_kept (fixes : Fixes place (Node.query query)) (dialect : Option Dialect)
    (settings : Settings) : ∀ finding ∈ check query dialect settings, finding.span.Kept place := by
  intro finding member
  obtain ⟨block, listed, member⟩ := List.mem_flatMap.1 member
  obtain ⟨span, offends, rfl⟩ := List.mem_map.1 member
  obtain ⟨filter, filtered, offends⟩ := List.mem_flatMap.1 offends
  obtain ⟨node, walked, found⟩ := List.mem_filterMap.1 offends
  have whole : Fixes place (Node.expr filter) := by
    refine Fixes.expr fun node present => (fixes.block listed).child ?_
    have below : node ∈ optionNodes block.filter := List.mem_flatMap.2 ⟨filter, filtered, present⟩
    simp [Node.children, SelectBlock.children, below]
  exact offence_kept (whole.walk _ walked) found

theorem UnusedColumn.check_kept (fixes : Fixes place (Node.query query)) (dialect : Option Dialect)
    (settings : Settings) : ∀ finding ∈ check query dialect settings, finding.span.Kept place := by
  intro finding member
  unfold check at member
  split at member
  · cases member
  · obtain ⟨violation, listed, rfl⟩ := List.mem_map.1 member
    exact kept_of_mem_analyze fixes (List.mem_of_mem_filter listed)

theorem Rule.finds_kept (fixes : Fixes place (Node.query query)) {rule : Rule} (known : rule ∈ Rule.all)
    (dialect : Option Dialect) (settings : Settings) :
    ∀ finding ∈ rule.check query dialect settings, finding.span.Kept place := by
  simp only [Rule.all, List.mem_cons, List.not_mem_nil, or_false] at known
  rcases known with rfl | rfl | rfl | rfl | rfl
  · exact Grouping.check_kept fixes dialect settings
  · exact CurrentDate.check_kept fixes dialect settings
  · exact TableSuffix.check_kept fixes dialect settings
  · exact UnusedColumn.check_kept fixes dialect settings
  · exact Ordering.check_kept fixes dialect settings

theorem Analyzer.analyze_kept (fixes : Fixes place (Node.query query)) (analyzer : Analyzer)
    (dialect : Option Dialect) :
    ∀ diagnostic ∈ analyzer.analyze query dialect, diagnostic.span.Kept place := by
  intro diagnostic member
  obtain ⟨rule, runs, member⟩ := List.mem_flatMap.1 (List.mem_mergeSort.1 member)
  obtain ⟨finding, found, rfl⟩ := List.mem_map.1 member
  have known : rule ∈ Rule.all := by
    have listed := List.mem_of_mem_filter runs
    split at listed
    · exact listed
    · exact List.mem_of_mem_filter listed
  exact Rule.finds_kept fixes known dialect _ finding found

end Rules

/-! ### Sources -/

section Sources

variable {source : Bytes}

/-- The position is unset, or that of an offset of the source. -/
def Position.LiesIn (source : Bytes) (position : Position) : Prop :=
  position = {} ∨ ∃ offset ≤ source.length, position = .atOffset source offset

theorem sourceSpan_liesIn {span : Span}
    (listed : span ∈ (sourceTokens source).tokens.map Token.span ++
      (sourceTokens source).comments.map Comment.span) :
    span.start.LiesIn source ∧ span.stop.LiesIn source := by
  obtain ⟨i, j, -, forward, inside, rfl⟩ :=
    (TokenStream.ofSource_accountsFor Dialect.bigQuery_proper source).placed span listed
  exact ⟨.inr ⟨i, Nat.le_trans forward inside, rfl⟩, .inr ⟨j, inside, rfl⟩⟩

theorem Span.Kept.liesIn {span : Span} (kept : span.Kept (.keep (sourceTokens source).positions)) :
    span.start.LiesIn source := by
  rcases kept with unset | kept
  · exact .inl unset
  rcases Position.eq_or_mem_of_keep kept with unset | member
  · exact .inl unset
  · obtain ⟨token, listed, ends⟩ := List.mem_flatMap.1 member
    have lies := sourceSpan_liesIn (List.mem_append_left _ (List.mem_map_of_mem listed))
    rcases List.mem_cons.1 ends with same | last
    · exact same ▸ lies.1
    · exact List.mem_singleton.1 last ▸ lies.2

theorem SyntaxError.start_liesIn {error : SyntaxError}
    (reported : (Script.parse Dialect.bigQuery source).error? = some error) :
    error.diagnostic.span.start.LiesIn source := by
  rw [error.diagnostic_start]
  cases place : error.position? with
  | none => exact .inl rfl
  | some position =>
    obtain ⟨span, listed, rfl⟩ := (reported_stands (.inr reported)).span place
    exact (sourceSpan_liesIn listed).1

/-- A diagnostic of a source has no place or stands at an offset of the source. -/
theorem Linter.start_of_mem_lint {linter : Linter} (reads : linter.dialect = .bigQuery)
    {diagnostic : Diagnostic} (member : diagnostic ∈ linter.lint source) :
    diagnostic.span.start.LiesIn source := by
  unfold lint at member
  rw [reads] at member
  cases parsed : Script.parse Dialect.bigQuery source with
  | accepted script recovered =>
    rw [parsed] at member
    have listed := List.mem_of_mem_filter (List.mem_mergeSort.1 member)
    rcases List.mem_append.1 listed with failed | found
    · obtain ⟨error, noted, rfl⟩ := List.mem_map.1 failed
      refine error.start_liesIn ?_
      rw [parsed]
      exact Option.mem_toList.1 noted
    · obtain ⟨query, stated, found⟩ := List.mem_flatMap.1 found
      have fixes : Fixes _ (Node.query query) :=
        congrArg Node.query ((Script.fixes_statements parsed).mem stated)
      exact (Analyzer.analyze_kept fixes linter.analyzer _ diagnostic found).liesIn
  | rejected error =>
    rw [parsed] at member
    obtain rfl := List.mem_singleton.1 member
    refine error.start_liesIn ?_
    rw [parsed]
    rfl
  | exhausted =>
    rw [parsed] at member
    cases member

end Sources

end QueryLint
