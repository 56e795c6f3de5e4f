import QueryLint.Project.LintSection
import QueryLint.Proofs.Lint.Configuration

/-!
Whether the order in which a section lists its severities and its rules makes a difference. A file
gives them as mappings, which have no order. Severities are sorted by rule before they are set, so
their order is lost, and with it the order of the first one that is refused. Options are set as they
come. Where several spellings of a rule's identifier are listed the last one counts, and which one that
is depends on the order.
-/

namespace QueryLint

namespace LintConfig

def withoutOptions (config : LintConfig) : LintConfig := { config with options := [] }

def addOptions (config : LintConfig) (entries : List (String × Option Settings)) : LintConfig :=
  entries.foldl (fun config (id, options) => config.setOptions id options) config

theorem options_disable (ids : List String) (config : LintConfig) :
    (ids.foldl disable config).options = config.options := by
  induction ids generalizing config with
  | nil => rfl
  | cons id ids ih => exact ih (config.disable id)

theorem withoutOptions_addOptions (entries : List (String × Option Settings)) (config : LintConfig) :
    (config.addOptions entries).withoutOptions = config.withoutOptions := by
  induction entries generalizing config with
  | nil => rfl
  | cons entry entries ih => exact ih (config.setOptions entry.1 entry.2)

/-- The options listed for a rule, under all spellings of its identifier. -/
def listed (id : String) (entries : List (String × Option Settings)) : List (Option Settings) :=
  (entries.filter fun entry => ruleKey id == ruleKey entry.1).map (·.2)

theorem mem_listed {id : String} {entries : List (String × Option Settings)}
    {options : Option Settings} :
    options ∈ listed id entries ↔ ∃ name, (name, options) ∈ entries ∧ ruleKey id = ruleKey name := by
  simp [listed]

theorem lookup_addOptions (id : String) (entries : List (String × Option Settings))
    (config : LintConfig) :
    (config.addOptions entries).options.lookup (ruleKey id) =
      (listed id entries).getLast?.or (config.options.lookup (ruleKey id)) := by
  induction entries generalizing config with
  | nil => rfl
  | cons entry entries ih =>
    calc (config.addOptions (entry :: entries)).options.lookup (ruleKey id)
      _ = (listed id entries).getLast?.or
          ((config.setOptions entry.1 entry.2).options.lookup (ruleKey id)) := ih _
      _ = (listed id entries).getLast?.or (if ruleKey id == ruleKey entry.1 then some entry.2
          else config.options.lookup (ruleKey id)) :=
        congrArg _ (lookup_setKey_eq ..)
      _ = (listed id (entry :: entries)).getLast?.or (config.options.lookup (ruleKey id)) := by
        unfold listed
        rw [List.filter_cons]
        cases ruleKey id == ruleKey entry.1 with
        | false => rfl
        | true =>
          rw [if_pos rfl, if_pos rfl, List.map_cons, List.getLast?_cons]
          cases ((entries.filter _).map _).getLast? <;> rfl

end LintConfig

namespace LintSection

theorem options_addSeverities {config config' : LintConfig} {entries : List (String × String)}
    (added : addSeverities config entries = .ok config') : config'.options = config.options := by
  induction entries generalizing config with
  | nil =>
    cases added
    rfl
  | cons entry entries ih =>
    unfold addSeverities at added
    split at added
    next severity known => exact (ih added).trans rfl
    next => cases added

theorem exists_addSeverities_iff {config : LintConfig} {entries : List (String × String)} :
    (∃ config', addSeverities config entries = .ok config') ↔
      ∀ entry ∈ entries, (Severity.ofName? entry.2).isSome = true := by
  induction entries generalizing config with
  | nil => exact iff_of_true ⟨config, rfl⟩ (List.forall_mem_nil _)
  | cons entry entries ih =>
    rw [List.forall_mem_cons]
    unfold addSeverities
    cases Severity.ofName? entry.2 with
    | none => exact iff_of_false nofun nofun
    | some severity => exact ih.trans (and_iff_right rfl).symm

def sortedSeverities (lint : LintSection) : List (String × String) :=
  (lint.severity.getD []).mergeSort fun a b => (compare a.1 b.1).isLE

def optionsFor (lint : LintSection) (id : String) : List (Option Settings) :=
  LintConfig.listed id (lint.rules.getD [])

def withSeverities (lint : LintSection) : Except LintConfigError LintConfig :=
  addSeverities (lint.disabled.foldl LintConfig.disable {}) lint.sortedSeverities

theorem toConfig_eq (lint : LintSection) :
    lint.toConfig = lint.withSeverities.map (·.addOptions (lint.rules.getD [])) := by
  show (lint.withSeverities.bind fun config => .ok (config.addOptions (lint.rules.getD []))) = _
  cases lint.withSeverities <;> rfl

theorem exists_toConfig_iff {lint : LintSection} :
    (∃ config, lint.toConfig = .ok config) ↔
      ∀ entry ∈ lint.severity.getD [], (Severity.ofName? entry.2).isSome = true := by
  have sorted : (∀ entry ∈ lint.sortedSeverities, (Severity.ofName? entry.2).isSome = true) ↔
      ∀ entry ∈ lint.severity.getD [], (Severity.ofName? entry.2).isSome = true :=
    forall_congr' fun entry => imp_congr_left (List.mergeSort_perm _ _).mem_iff
  have before : (∃ config, lint.withSeverities = .ok config) ↔
      ∀ entry ∈ lint.sortedSeverities, (Severity.ofName? entry.2).isSome = true :=
    exists_addSeverities_iff
  rw [← sorted, ← before, toConfig_eq]
  cases lint.withSeverities with
  | error error => exact iff_of_false nofun nofun
  | ok config => exact iff_of_true ⟨_, rfl⟩ ⟨_, rfl⟩

theorem withoutOptions_toConfig (lint : LintSection) :
    lint.toConfig.map LintConfig.withoutOptions =
      lint.withSeverities.map LintConfig.withoutOptions := by
  rw [toConfig_eq]
  cases lint.withSeverities with
  | error error => rfl
  | ok config => exact congrArg Except.ok (LintConfig.withoutOptions_addOptions _ config)

theorem optionsOf_toConfig {lint : LintSection} {config : LintConfig}
    (result : lint.toConfig = .ok config) (id : String) :
    config.optionsOf id = (lint.optionsFor id).getLast?.join := by
  rw [toConfig_eq] at result
  cases added : lint.withSeverities with
  | error error =>
    rw [added] at result
    cases result
  | ok before =>
    rw [added] at result
    obtain rfl : before.addOptions (lint.rules.getD []) = config := Except.ok.inj result
    have empty : before.options = [] :=
      (options_addSeverities added).trans (LintConfig.options_disable lint.disabled {})
    unfold LintConfig.optionsOf optionsFor
    rw [LintConfig.lookup_addOptions, empty, List.lookup_nil, Option.or_none]

/-- Sections that say the same but for the order in which severities and rules are listed. -/
structure SameEntries (first second : LintSection) : Prop where
  disabled : first.disabled = second.disabled
  severity : (first.severity.getD []).Perm (second.severity.getD [])
  rules : (first.rules.getD []).Perm (second.rules.getD [])

section Order

variable {first second : LintSection}

theorem SameEntries.sortedSeverities (same : first.SameEntries second)
    (distinct : ((first.severity.getD []).map Prod.fst).Nodup) :
    first.sortedSeverities = second.sortedSeverities := by
  let le (a b : String × String) : Bool := (compare a.1 b.1).isLE
  have trans (a b c : String × String) (below : le a b = true) (above : le b c = true) :
      le a c = true :=
    isLE_compare_iff.2 ((isLE_compare_iff.1 below).trans (isLE_compare_iff.1 above))
  have total (a b : String × String) : (le a b || le b a) = true := by
    rw [Bool.or_eq_true, isLE_compare_iff, isLE_compare_iff]
    exact le_total a.1 b.1
  have firstPerm : first.sortedSeverities.Perm (first.severity.getD []) := List.mergeSort_perm ..
  have secondPerm : second.sortedSeverities.Perm (second.severity.getD []) := List.mergeSort_perm ..
  apply List.Perm.eq_of_pairwise
  · intro a b inFirst inSecond below above
    have key : a.1 = b.1 := le_antisymm (isLE_compare_iff.1 below) (isLE_compare_iff.1 above)
    exact List.inj_on_of_nodup_map distinct (firstPerm.mem_iff.1 inFirst)
      (same.severity.mem_iff.2 (secondPerm.mem_iff.1 inSecond)) key
  · exact List.pairwise_mergeSort trans total _
  · exact List.pairwise_mergeSort trans total _
  · exact firstPerm.trans (same.severity.trans secondPerm.symm)

theorem SameEntries.withoutOptions_toConfig (same : first.SameEntries second)
    (distinct : ((first.severity.getD []).map Prod.fst).Nodup) :
    second.toConfig.map LintConfig.withoutOptions = first.toConfig.map LintConfig.withoutOptions := by
  rw [LintSection.withoutOptions_toConfig, LintSection.withoutOptions_toConfig, withSeverities,
    withSeverities, same.disabled, same.sortedSeverities distinct]

theorem SameEntries.optionsOf_toConfig (same : first.SameEntries second)
    (distinct : ((first.severity.getD []).map Prod.fst).Nodup) {config : LintConfig}
    (result : first.toConfig = .ok config) (id : String) :
    second.toConfig.map (·.optionsOf id) = .ok (second.optionsFor id).getLast?.join := by
  have agree := same.withoutOptions_toConfig distinct
  rw [result] at agree
  cases other : second.toConfig with
  | error error =>
    rw [other] at agree
    cases agree
  | ok config' => exact congrArg Except.ok (LintSection.optionsOf_toConfig other id)

theorem SameEntries.optionsFor (same : first.SameEntries second) (id : String) :
    (first.optionsFor id).Perm (second.optionsFor id) :=
  (same.rules.filter _).map _

theorem SameEntries.optionsFor_eq (same : first.SameEntries second) {id : String}
    (uniform : ∀ options ∈ first.optionsFor id, ∀ other ∈ first.optionsFor id, options = other) :
    second.optionsFor id = first.optionsFor id := by
  have perm := same.optionsFor id
  cases entries : first.optionsFor id with
  | nil =>
    rw [entries] at perm
    exact List.nil_perm.1 perm
  | cons options others =>
    have all : first.optionsFor id = List.replicate (first.optionsFor id).length options := by
      apply List.eq_replicate_of_mem
      intro other member
      exact uniform other member options (entries ▸ List.mem_cons_self)
    rw [all] at perm
    rw [← entries, List.perm_replicate.1 perm.symm, ← all]

theorem exists_sameEntries_last {id : String} {options : Option Settings}
    (member : options ∈ first.optionsFor id) :
    ∃ second, first.SameEntries second ∧ (second.optionsFor id).getLast? = some options := by
  obtain ⟨name, present, key⟩ := LintConfig.mem_listed.1 member
  obtain ⟨before, after, cut⟩ := List.append_of_mem present
  refine ⟨{ first with rules := some ((before ++ after) ++ [(name, options)]) }, ⟨rfl, .refl _, ?_⟩, ?_⟩
  · rw [cut]
    exact List.perm_middle.trans (List.perm_append_singleton _ _).symm
  · have kept : (ruleKey id == ruleKey name) = true := beq_iff_eq.2 key
    show (LintConfig.listed id ((before ++ after) ++ [(name, options)])).getLast? = some options
    rw [LintConfig.listed, List.filter_append, List.map_append, List.filter_singleton, kept, cond_true,
      List.map_singleton, List.getLast?_concat]

end Order

/-- The order of severities makes no difference, and the order of rules makes none but to options. A
rule's options are the same in every order only if all its spellings are listed with the same ones. -/
theorem toConfig_entry_order {first : LintSection}
    (distinct : ((first.severity.getD []).map Prod.fst).Nodup) :
    (∀ second, first.SameEntries second →
      second.toConfig.map LintConfig.withoutOptions = first.toConfig.map LintConfig.withoutOptions) ∧
    ∀ config, first.toConfig = .ok config → ∀ id,
      (∀ second, first.SameEntries second →
        second.toConfig.map (·.optionsOf id) = .ok (config.optionsOf id)) ↔
      ∀ options ∈ first.optionsFor id, ∀ other ∈ first.optionsFor id, options = other := by
  constructor
  · intro second same
    exact same.withoutOptions_toConfig distinct
  intro config result id
  rw [optionsOf_toConfig result id]
  constructor
  · intro kept
    have last {options : Option Settings} (member : options ∈ first.optionsFor id) :
        options = (first.optionsFor id).getLast?.join := by
      obtain ⟨second, same, ends⟩ := exists_sameEntries_last member
      have found := (same.optionsOf_toConfig distinct result id).symm.trans (kept second same)
      rw [ends] at found
      exact Except.ok.inj found
    intro options member other member'
    rw [last member, last member']
  · intro uniform second same
    rw [same.optionsOf_toConfig distinct result id, same.optionsFor_eq uniform]

/-- A section with two spellings of a rule, once with options and once without: it can be listed so that
the rule gets others. -/
theorem toConfig_entry_order_spellings :
    let spelled : LintSection :=
      { severity := some [("st01", "error"), ("ST01", "info")]
        rules := some [("st01", some []), ("ST01", none)] }
    ((spelled.severity.getD []).map Prod.fst).Nodup ∧
      (∀ second, spelled.SameEntries second → second.toConfig.map LintConfig.withoutOptions =
        spelled.toConfig.map LintConfig.withoutOptions) ∧
      ∃ config second, spelled.toConfig = .ok config ∧ spelled.SameEntries second ∧
        second.toConfig.map (·.optionsOf "ST01") ≠ .ok (config.optionsOf "ST01") := by
  intro spelled
  have distinct : ((spelled.severity.getD []).map Prod.fst).Nodup := by decide
  obtain ⟨config, result⟩ : ∃ config, spelled.toConfig = .ok config :=
    exists_toConfig_iff.2 (by decide +kernel)
  have apart : ¬∀ options ∈ spelled.optionsFor "ST01", ∀ other ∈ spelled.optionsFor "ST01",
      options = other := by
    intro uniform
    have listed : spelled.optionsFor "ST01" = [some [], none] := rfl
    rw [listed] at uniform
    cases uniform (some []) (by simp) none (by simp)
  obtain ⟨unchanged, kept⟩ := toConfig_entry_order distinct
  have differs := mt (kept config result "ST01").1 apart
  rw [not_forall] at differs
  obtain ⟨second, differs⟩ := differs
  rw [Classical.not_imp] at differs
  exact ⟨distinct, unchanged, config, second, result, differs.1, differs.2⟩

end LintSection

end QueryLint
