import Mathlib.Data.List.Sort
import Mathlib.Data.Prod.Lex
import Mathlib.Data.String.Basic
import QueryLint.Lint.Analysis

/-!
What a configuration changes. The rules run one after another and their diagnostics are sorted
together, so that a change to the configuration of one rule has to be followed through the sorting.
Sorting is stable and its order does not look at severities: taking diagnostics out before sorting or
after it is the same, and so is giving them another severity.
-/

namespace QueryLint

/-! ### Stable sorting -/

section Sorting

variable {α : Type} {le : α → α → Bool}

theorem append_cut_unique {test : α → Bool} {first second first' second' : List α}
    (same : first ++ second = first' ++ second')
    (within : ∀ a ∈ first, test a = true) (beyond : ∀ a ∈ second, test a = false)
    (within' : ∀ a ∈ first', test a = true) (beyond' : ∀ a ∈ second', test a = false) :
    first = first' ∧ second = second' := by
  have kept {front back : List α} (within : ∀ a ∈ front, test a = true)
      (beyond : ∀ a ∈ back, test a = false) : (front ++ back).filter test = front := by
    rw [List.filter_append, List.filter_eq_self.2 within,
      List.filter_eq_nil_iff.2 fun a member => Bool.eq_false_iff.1 (beyond a member),
      List.append_nil]
  have fronts : first = first' := by
    rw [← kept within beyond, same, kept within' beyond']
  exact ⟨fronts, List.append_cancel_left (fronts ▸ same)⟩

variable (trans : ∀ a b c, le a b → le b c → le a c) (total : ∀ a b, le a b || le b a)

include trans total

/-- Inserting the first element into the sorted rest: what must stand after it is not above what
stands before it. -/
theorem mergeSort_cons_cut (a : α) (list : List α) : ∃ before after,
    (a :: list).mergeSort le = before ++ a :: after ∧ list.mergeSort le = before ++ after ∧
      (∀ b ∈ before, (!le a b) = true) ∧ ∀ b ∈ after, (!le a b) = false := by
  obtain ⟨before, after, whole, rest, smaller⟩ := List.mergeSort_cons trans total a list
  have sorted : (before ++ a :: after).Pairwise fun a b => le a b = true :=
    whole ▸ List.pairwise_mergeSort trans total (a :: list)
  refine ⟨before, after, whole, rest, smaller, fun b member => ?_⟩
  rw [Bool.not_eq_false']
  exact List.rel_of_pairwise_cons (List.pairwise_append.1 sorted).2.1 member

theorem filter_mergeSort (test : α → Bool) (list : List α) :
    (list.mergeSort le).filter test = (list.filter test).mergeSort le := by
  induction list with
  | nil => rw [List.mergeSort_nil, List.filter_nil, List.mergeSort_nil]
  | cons a list ih =>
    obtain ⟨before, after, whole, rest, smaller, larger⟩ := mergeSort_cons_cut trans total a list
    have remaining : before.filter test ++ after.filter test = (list.filter test).mergeSort le := by
      rw [← ih, rest, List.filter_append]
    cases kept : test a with
    | false =>
      have dropped : ¬test a = true := by rw [kept]; exact Bool.false_ne_true
      rw [whole, List.filter_append, List.filter_cons_of_neg dropped,
        List.filter_cons_of_neg dropped, remaining]
    | true =>
      -- Both sortings put `a` where the elements above it end, and leave the same rest around it.
      obtain ⟨before', after', whole', rest', smaller', larger'⟩ :=
        mergeSort_cons_cut trans total a (list.filter test)
      obtain ⟨rfl, rfl⟩ := append_cut_unique (remaining.trans rest')
        (fun b member => smaller b (List.mem_of_mem_filter member))
        (fun b member => larger b (List.mem_of_mem_filter member)) smaller' larger'
      rw [whole, List.filter_append, List.filter_cons_of_pos kept, List.filter_cons_of_pos kept,
        whole']

end Sorting

/-! ### The order of diagnostics -/

theorem isLE_compare_iff {a b : String} : (compare a b).isLE = true ↔ a ≤ b :=
  Ordering.isLE_iff_ne_gt.trans compare_le_iff_le

namespace Diagnostic

/-- The order of lines, then of columns, then of the identifiers of rules. -/
def Precedes (a b : Diagnostic) : Prop :=
  a.line < b.line ∨ a.line = b.line ∧
    (a.column < b.column ∨ a.column = b.column ∧ a.rule ≤ b.rule)

def sortKey (diagnostic : Diagnostic) : ℤ ×ₗ ℤ ×ₗ String :=
  toLex (diagnostic.line, toLex (diagnostic.column, diagnostic.rule))

theorem sortKey_le_iff {a b : Diagnostic} : a.sortKey ≤ b.sortKey ↔ a.Precedes b := by
  simp only [sortKey, Precedes, Prod.Lex.toLex_le_toLex]

theorem le_eq_true_iff {a b : Diagnostic} : a.le b = true ↔ a.Precedes b := by
  simp only [le, compare, Ordering.isLE_then_iff_or, Precedes, Int.compare_eq_lt,
    Int.compare_eq_eq, isLE_compare_iff]

theorem le_transitive (a b c : Diagnostic) (first : a.le b = true) (second : b.le c = true) :
    a.le c = true := by
  rw [le_eq_true_iff, ← sortKey_le_iff] at *
  exact first.trans second

theorem le_or_le (a b : Diagnostic) : (a.le b || b.le a) = true := by
  simp only [Bool.or_eq_true, le_eq_true_iff, ← sortKey_le_iff]
  exact le_total a.sortKey b.sortKey

theorem pairwise_sort (diagnostics : List Diagnostic) : (sort diagnostics).Pairwise Precedes :=
  (List.pairwise_mergeSort le_transitive le_or_le diagnostics).imp le_eq_true_iff.1

theorem filter_sort (test : Diagnostic → Bool) (diagnostics : List Diagnostic) :
    (sort diagnostics).filter test = sort (diagnostics.filter test) :=
  filter_mergeSort le_transitive le_or_le test diagnostics

theorem map_sort {change : Diagnostic → Diagnostic}
    (unmoved : ∀ diagnostic, (change diagnostic).sortKey = diagnostic.sortKey)
    (diagnostics : List Diagnostic) :
    (sort diagnostics).map change = sort (diagnostics.map change) := by
  refine List.map_mergeSort fun a _ b _ => Bool.eq_iff_iff.2 ?_
  rw [le_eq_true_iff, le_eq_true_iff, ← sortKey_le_iff, ← sortKey_le_iff, unmoved, unmoved]

end Diagnostic

/-! ### Entries of a configuration -/

namespace LintConfig

variable (config : LintConfig) (id other : String)

theorem isDisabled_disable :
    (config.disable id).isDisabled other =
      (ruleKey other == ruleKey id || config.isDisabled other) := by
  rw [Bool.eq_iff_iff]
  simp only [isDisabled, disable, Bool.or_eq_true, List.contains_iff_mem, List.mem_insert_iff,
    beq_iff_eq, or_assoc]

theorem severityOf_setSeverity (severity default : Severity) :
    (config.setSeverity id severity).severityOf other default =
      if ruleKey other = ruleKey id then severity else config.severityOf other default := by
  simp only [severityOf, setSeverity, lookup_setKey_eq, beq_iff_eq]
  split <;> rfl

end LintConfig

/-! ### Running the rules -/

namespace Diagnostic

/-- The diagnostic is one of the rule that an identifier names in any letter case. -/
def OfRule (id : String) (diagnostic : Diagnostic) : Prop := ruleKey diagnostic.rule = ruleKey id

instance (id : String) : DecidablePred (OfRule id) := fun _ => instDecidableEqString _ _

def regrade (id : String) (severity : Severity) (diagnostic : Diagnostic) : Diagnostic :=
  if diagnostic.OfRule id then { diagnostic with severity } else diagnostic

theorem sortKey_regrade (id : String) (severity : Severity) (diagnostic : Diagnostic) :
    (diagnostic.regrade id severity).sortKey = diagnostic.sortKey := by
  unfold regrade
  split <;> rfl

end Diagnostic

namespace Analyzer

variable (config : LintConfig) (query : Query) (dialect : Option Dialect) (id : String)

theorem ofRule_of_mem_runRule {rule : Rule} {diagnostic : Diagnostic}
    (member : diagnostic ∈ runRule config query dialect rule) :
    diagnostic.OfRule id ↔ ruleKey rule.id = ruleKey id := by
  obtain ⟨finding, -, rfl⟩ := List.mem_map.1 member
  rfl

theorem runRule_disable (rule : Rule) :
    runRule (config.disable id) query dialect rule = runRule config query dialect rule := rfl

theorem runRule_setSeverity (severity : Severity) (rule : Rule) :
    runRule (config.setSeverity id severity) query dialect rule =
      (runRule config query dialect rule).map (Diagnostic.regrade id severity) := by
  rw [runRule, runRule, List.map_map]
  refine List.map_congr_left fun finding _ => ?_
  by_cases named : ruleKey rule.id = ruleKey id
  · have other : (rule.report (config.severityOf rule.id rule.severity) finding).OfRule id := named
    rw [LintConfig.severityOf_setSeverity, if_pos named, Function.comp, Diagnostic.regrade,
      if_pos other]
    rfl
  · have other : ¬(rule.report (config.severityOf rule.id rule.severity) finding).OfRule id := named
    rw [LintConfig.severityOf_setSeverity, if_neg named, Function.comp, Diagnostic.regrade,
      if_neg other]

theorem flatMap_runRule_disable (rules : List Rule) :
    (rules.filter fun rule => !(config.disable id).isDisabled rule.id).flatMap
        (runRule (config.disable id) query dialect) =
      ((rules.filter fun rule => !config.isDisabled rule.id).flatMap
        (runRule config query dialect)).filter fun diagnostic => ¬diagnostic.OfRule id := by
  have others (rule : Rule) : ((runRule config query dialect rule).filter
      fun diagnostic => ¬diagnostic.OfRule id) =
        if ruleKey rule.id = ruleKey id then [] else runRule config query dialect rule := by
    split
    · next named =>
      refine List.filter_eq_nil_iff.2 fun diagnostic member => ?_
      simpa using (ofRule_of_mem_runRule config query dialect id member).2 named
    · next different =>
      refine List.filter_eq_self.2 fun diagnostic member => ?_
      simpa using different ∘ (ofRule_of_mem_runRule config query dialect id member).1
  induction rules with
  | nil => rfl
  | cons rule rules ih =>
    rw [List.filter_cons, List.filter_cons, LintConfig.isDisabled_disable]
    cases disabled : config.isDisabled rule.id with
    | true => simpa using ih
    | false =>
      by_cases named : ruleKey rule.id = ruleKey id
      · have gone : ((ruleKey rule.id == ruleKey id) || false) = true := by simpa using named
        rw [gone, if_neg (by decide), if_pos (by decide), List.flatMap_cons, List.filter_append,
          others, if_pos named, List.nil_append, ih]
      · have stays : ((ruleKey rule.id == ruleKey id) || false) = false := by simpa using named
        rw [stays, if_pos (by decide), if_pos (by decide), List.flatMap_cons, List.flatMap_cons,
          List.filter_append, others, if_neg named, ih, runRule_disable]

def withConfig (analyzer : Analyzer) (config : LintConfig) : Analyzer := { analyzer with config }

/-- A configuration acts on one rule only. Switching a rule off takes its diagnostics out of the
answer, setting its severity changes the severity of its diagnostics, and nothing else changes, the
order included. Every answer is ordered by line, column and rule. -/
theorem analyze_configured (analyzer : Analyzer) (severity : Severity) :
    (analyzer.withConfig (analyzer.config.disable id)).analyze query dialect =
        ((analyzer.analyze query dialect).filter fun diagnostic => ¬diagnostic.OfRule id) ∧
      (analyzer.withConfig (analyzer.config.setSeverity id severity)).analyze query dialect =
        (analyzer.analyze query dialect).map (Diagnostic.regrade id severity) ∧
      (analyzer.analyze query dialect).Pairwise Diagnostic.Precedes := by
  refine ⟨?_, ?_, Diagnostic.pairwise_sort _⟩
  · rw [analyze, analyze, Diagnostic.filter_sort]
    exact congrArg Diagnostic.sort (flatMap_runRule_disable analyzer.config query dialect id _)
  · rw [analyze, analyze, Diagnostic.map_sort (Diagnostic.sortKey_regrade id severity),
      List.map_flatMap]
    refine congrArg Diagnostic.sort (List.flatMap_congr fun rule _ => ?_)
    exact runRule_setSeverity analyzer.config query dialect id severity rule

end Analyzer

end QueryLint
