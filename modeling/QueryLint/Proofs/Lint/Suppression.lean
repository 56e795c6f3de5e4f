import Mathlib.Data.List.Basic
import QueryLint.Lint.Suppression

/-!
What comments suppress. The comments of a source are gathered into a table by line, one after
another, and a line may have comments that suppress everything and comments that list rules. The
table covers a diagnostic exactly when one of the comments does, so neither the order of the comments
nor their number matters.
-/

namespace QueryLint

/-! ### The beginning of a text -/

namespace Text

theorem stripStart?_eq_some_iff {start text rest : List Char} :
    stripStart? start text = some rest ↔ text = start ++ rest := by
  induction start generalizing text with
  | nil => rw [stripStart?, Option.some.injEq, List.nil_append]
  | cons a start ih =>
    cases text with
    | nil => simp [stripStart?]
    | cons c text =>
      by_cases same : a = c
      · rw [stripStart?, if_pos same, ih, same, List.cons_append, List.cons_inj_right]
      · rw [stripStart?, if_neg same, List.cons_append, List.cons_eq_cons]
        exact ⟨nofun, fun equal => absurd equal.1.symm same⟩

theorem afterStart?_eq_some_iff {start text rest : String} :
    afterStart? start text = some rest ↔ text = start ++ rest := by
  simp only [afterStart?, Option.map_eq_some_iff, stripStart?_eq_some_iff]
  constructor
  · rintro ⟨found, split, rfl⟩
    rw [← String.toList_inj, split, String.toList_append, String.toList_ofList]
  · rintro rfl
    exact ⟨rest.toList, String.toList_append .., String.ofList_toList⟩

theorem length_lower (text : String) : (lower text).toList.length = text.toList.length := by
  rw [lower, String.toList_ofList, List.length_map]

theorem startsWith_lower_iff {start text : String} :
    startsWith start (lower text) = true ↔
      ∃ mark rest, text = mark ++ rest ∧ lower mark = start := by
  simp only [startsWith, Option.isSome_iff_exists, afterStart?_eq_some_iff]
  constructor
  · rintro ⟨rest, split⟩
    have cut : text.toList.map lowerChar = start.toList ++ rest.toList := by
      rw [← String.toList_append, ← split, lower, String.toList_ofList]
    obtain ⟨mark, after, whole, lowered, -⟩ := List.map_eq_append_iff.1 cut
    refine ⟨String.ofList mark, String.ofList after, ?_, ?_⟩
    · rw [← String.ofList_append, ← whole, String.ofList_toList]
    · rw [lower, String.toList_ofList, lowered, String.ofList_toList]
  · rintro ⟨mark, rest, rfl, rfl⟩
    refine ⟨lower rest, ?_⟩
    simp only [lower, String.toList_append, List.map_append, String.ofList_append]

end Text

/-! ### What one comment suppresses -/

namespace Suppression

/-- A list of identifiers, separated by commas, has that of the rule. White space around an
identifier and its letter case do not matter; an empty part is no identifier. -/
def Lists (list rule : String) : Prop :=
  ∃ part ∈ Text.splitOn ',' list, Text.trim part ≠ "" ∧
    Text.upper (Text.trim part) = Text.upper rule

/-- A comment silences a rule: its body begins with `noqa`, and if a colon follows, the rule is
listed after it. -/
def Silences (comment : Comment) (rule : String) : Prop :=
  ∃ mark rest, comment.body = mark ++ rest ∧ Text.lower mark = "noqa" ∧
    ∀ list, Text.trim rest = ":" ++ list → Lists list rule

/-- A comment on the line of a diagnostic silences its rule, and the diagnostic is not about a source
that could not be parsed. -/
def Suppressed (comments : List Comment) (diagnostic : Diagnostic) : Prop :=
  diagnostic.rule ≠ parseRuleId ∧ ∃ comment ∈ comments,
    comment.span.start.line = diagnostic.line ∧ Silences comment diagnostic.rule

def Names (rules : Option (List String)) (rule : String) : Prop :=
  ∀ ids ∈ rules, Text.upper rule ∈ ids

theorem mem_parseIds_iff {list rule : String} :
    Text.upper rule ∈ parseIds list ↔ Lists list rule := by
  simp only [parseIds, Lists, List.mem_map, List.mem_filter, Bool.not_eq_true',
    String.isEmpty_eq_false_iff]
  constructor
  · rintro ⟨_, ⟨⟨part, member, rfl⟩, nonempty⟩, same⟩
    exact ⟨part, member, nonempty, same⟩
  · rintro ⟨part, member, nonempty, same⟩
    exact ⟨_, ⟨⟨part, member, rfl⟩, nonempty⟩, same⟩

theorem drop_mark {body mark rest : String} (split : body = mark ++ rest)
    (lowered : Text.lower mark = "noqa") : String.ofList (body.toList.drop 4) = rest := by
  have width : mark.toList.length = 4 := by
    rw [← Text.length_lower, lowered]
    rfl
  rw [split, String.toList_append, ← width, List.drop_left, String.ofList_toList]

theorem rulesOf?_eq_some_iff {body : String} {rules : Option (List String)} :
    rulesOf? body = some rules ↔ ∃ mark rest, body = mark ++ rest ∧ Text.lower mark = "noqa" ∧
      rules = (Text.afterStart? ":" (Text.trim rest)).map parseIds := by
  rw [rulesOf?]
  constructor
  · intro found
    split at found
    · next begins =>
      obtain ⟨mark, rest, split, lowered⟩ := Text.startsWith_lower_iff.1 begins
      rw [drop_mark split lowered] at found
      exact ⟨mark, rest, split, lowered, (Option.some.inj found).symm⟩
    · cases found
  · rintro ⟨mark, rest, split, lowered, same⟩
    rw [if_pos (Text.startsWith_lower_iff.2 ⟨mark, rest, split, lowered⟩), drop_mark split lowered,
      same]

theorem names_after_iff {rest rule : String} :
    Names ((Text.afterStart? ":" (Text.trim rest)).map parseIds) rule ↔
      ∀ list, Text.trim rest = ":" ++ list → Lists list rule := by
  simp only [Names, Option.mem_def, Option.map_eq_some_iff, Text.afterStart?_eq_some_iff]
  constructor
  · exact fun named list after => mem_parseIds_iff.1 (named _ ⟨list, after, rfl⟩)
  · rintro named _ ⟨list, after, rfl⟩
    exact mem_parseIds_iff.2 (named list after)

theorem exists_rulesOf?_iff {comment : Comment} {rule : String} :
    (∃ rules, rulesOf? comment.body = some rules ∧ Names rules rule) ↔ Silences comment rule := by
  constructor
  · rintro ⟨_, found, named⟩
    obtain ⟨mark, rest, split, lowered, same⟩ := rulesOf?_eq_some_iff.1 found
    exact ⟨mark, rest, split, lowered, names_after_iff.1 (same ▸ named)⟩
  · rintro ⟨mark, rest, split, lowered, listed⟩
    exact ⟨_, rulesOf?_eq_some_iff.2 ⟨mark, rest, split, lowered, rfl⟩, names_after_iff.2 listed⟩

end Suppression

/-! ### What the table of all comments covers -/

namespace SuppressionTable

open Suppression

variable {diagnostic : Diagnostic}

def Concerns (diagnostic : Diagnostic) (suppression : Suppression) : Prop :=
  suppression.line = diagnostic.line ∧ Names suppression.rules diagnostic.rule

theorem covers_iff {table : SuppressionTable} :
    table.covers diagnostic = true ↔
      ∃ rules, table.lines.lookup diagnostic.line = some rules ∧ Names rules diagnostic.rule := by
  rw [covers]
  cases found : table.lines.lookup diagnostic.line with
  | none => simp
  | some rules => cases rules <;> simp [Names]

theorem covers_put {table : SuppressionTable} {line : Int} {rules : Option (List String)} :
    SuppressionTable.covers ⟨setKey line rules table.lines⟩ diagnostic = true ↔
      if diagnostic.line = line then Names rules diagnostic.rule
      else table.covers diagnostic = true := by
  rw [covers_iff, lookup_setKey_eq]
  by_cases same : diagnostic.line = line
  · rw [if_pos same, if_pos (beq_iff_eq.2 same)]
    simp
  · rw [if_neg same, if_neg (mt beq_iff_eq.1 same), covers_iff]

theorem covers_at {table : SuppressionTable} {line : Int} {rules : Option (Option (List String))}
    (found : table.lines.lookup line = rules) (same : diagnostic.line = line) :
    table.covers diagnostic = true ↔ ∃ listed ∈ rules, Names listed diagnostic.rule := by
  rw [covers_iff, same, found]
  rfl

/-- A comment adds to the table what it suppresses itself, whatever stands there already. -/
theorem covers_add (table : SuppressionTable) (suppression : Suppression) :
    (table.add suppression).covers diagnostic = true ↔
      table.covers diagnostic = true ∨ Concerns diagnostic suppression := by
  obtain ⟨line, rules⟩ := suppression
  by_cases same : diagnostic.line = line
  · have concerns : Concerns diagnostic ⟨line, rules⟩ ↔ Names rules diagnostic.rule :=
      and_iff_right same.symm
    rw [concerns]
    -- On the line itself a list joins what stands there, and suppressing everything takes it in.
    cases rules with
    | none => simp [add, covers_put, same, Names]
    | some ids =>
      cases found : table.lines.lookup line with
      | none => simp [add, found, covers_put, covers_at found same, if_pos same]
      | some listed =>
        cases listed with
        | none => simp [add, found, covers_at found same, Names]
        | some listed => simp [add, found, covers_put, covers_at found same, if_pos same, Names]
  · have apart : ¬Concerns diagnostic ⟨line, rules⟩ := fun concerns => same concerns.1.symm
    rw [or_iff_left apart]
    simp only [add]
    split
    · rw [covers_put, if_neg same]
    · rfl
    · rw [covers_put, if_neg same]
    · rw [covers_put, if_neg same]

theorem covers_foldl (suppressions : List Suppression) (table : SuppressionTable) :
    (suppressions.foldl add table).covers diagnostic = true ↔
      table.covers diagnostic = true ∨ ∃ suppression ∈ suppressions,
        Concerns diagnostic suppression := by
  induction suppressions generalizing table with
  | nil => simp
  | cons suppression rest ih =>
    rw [List.foldl_cons, ih, covers_add, List.exists_mem_cons_iff, or_assoc]

theorem covers_ofComments (comments : List Comment) :
    (ofComments comments).covers diagnostic = true ↔ ∃ comment ∈ comments,
      comment.span.start.line = diagnostic.line ∧ Silences comment diagnostic.rule := by
  have empty : ¬SuppressionTable.covers {} diagnostic = true := Bool.false_ne_true
  simp only [ofComments, covers_foldl, or_iff_right empty, List.mem_filterMap, ofComment?,
    Option.map_eq_some_iff, ← exists_rulesOf?_iff]
  constructor
  · rintro ⟨_, ⟨comment, member, rules, found, rfl⟩, line, named⟩
    exact ⟨comment, member, line, rules, found, named⟩
  · rintro ⟨comment, member, line, rules, found, named⟩
    exact ⟨_, ⟨comment, member, rules, found, rfl⟩, line, named⟩

end SuppressionTable

/-! ### What is kept -/

namespace Suppression

theorem suppressed_iff {comments : List Comment} {diagnostic : Diagnostic} :
    Suppressed comments diagnostic ↔ diagnostic.rule ≠ parseRuleId ∧
      (SuppressionTable.ofComments comments).covers diagnostic = true := by
  rw [Suppressed, SuppressionTable.covers_ofComments]

instance (comments : List Comment) : DecidablePred (Suppressed comments) :=
  fun _ => decidable_of_iff' _ suppressed_iff

theorem suppressed_congr {comments others : List Comment}
    (same : ∀ comment, comment ∈ others ↔ comment ∈ comments) (diagnostic : Diagnostic) :
    Suppressed others diagnostic ↔ Suppressed comments diagnostic := by
  simp only [Suppressed, same]

theorem keep_eq_filter (comments : List Comment) (diagnostics : List Diagnostic) :
    keep comments diagnostics = diagnostics.filter fun diagnostic =>
      ¬Suppressed comments diagnostic := by
  refine List.filter_congr fun diagnostic _ => ?_
  rw [Bool.eq_iff_iff, decide_eq_true_iff, suppressed_iff, not_and_or, not_not,
    Bool.or_eq_true, beq_iff_eq, Bool.not_eq_true', Bool.not_eq_true]

/-- Exactly the suppressed diagnostics are left out and the others keep their order. It does not
matter in which order the comments come or how often, and a second time changes nothing. -/
theorem keep_exactly_unsuppressed (comments others : List Comment)
    (diagnostics : List Diagnostic) :
    (keep comments diagnostics = diagnostics.filter fun diagnostic =>
        ¬Suppressed comments diagnostic) ∧
      ((∀ comment, comment ∈ others ↔ comment ∈ comments) →
        keep others diagnostics = keep comments diagnostics) ∧
      keep comments (keep comments diagnostics) = keep comments diagnostics := by
  refine ⟨keep_eq_filter comments diagnostics, fun same => ?_, ?_⟩
  · rw [keep_eq_filter, keep_eq_filter]
    refine List.filter_congr fun diagnostic _ => ?_
    rw [decide_eq_decide, suppressed_congr same]
  · rw [keep_eq_filter, keep_eq_filter, List.filter_filter]
    simp only [Bool.and_self]

def mixedComments : List Comment :=
  let comment (kind : CommentKind) (text : String) (line : Int) : Comment :=
    ⟨kind, Text.encode text, { start := ⟨line, 1, 0⟩ }⟩
  [comment .line "-- noqa: am01 , cv01" 1, comment .line "# noqa:ST01" 2,
    comment .block "/* NoQA */" 2]

def mixedDiagnostics : List Diagnostic :=
  let diagnostic (rule : String) (line : Int) : Diagnostic :=
    { rule, severity := .warning, message := "", span := { start := ⟨line, 1, 0⟩ } }
  [diagnostic "ST01" 1, diagnostic "CV01" 1, diagnostic "parse" 2, diagnostic "ST02" 2]

/-- The comments in reverse order with one of them repeated suppress the same. -/
theorem mixedComments_reordered :
    (∀ comment, comment ∈ mixedComments.reverse ++ mixedComments.take 1 ↔
      comment ∈ mixedComments) ∧
    keep (mixedComments.reverse ++ mixedComments.take 1) mixedDiagnostics =
      keep mixedComments mixedDiagnostics ∧
    (keep mixedComments mixedDiagnostics).map (·.rule) = ["ST01", "parse"] := by
  have same : ∀ comment, comment ∈ mixedComments.reverse ++ mixedComments.take 1 ↔
      comment ∈ mixedComments := by
    intro comment
    rw [List.mem_append, List.mem_reverse]
    exact or_iff_left_of_imp List.mem_of_mem_take
  exact ⟨same, (keep_exactly_unsuppressed mixedComments _ mixedDiagnostics).2.1 same,
    by decide +kernel⟩

end Suppression

end QueryLint
