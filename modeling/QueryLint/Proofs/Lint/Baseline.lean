import Mathlib.Data.List.Basic
import QueryLint.Command.Record

/-!
What a baseline covers. A baseline counts its records under keys that are built from file, rule and
message, and each covered finding uses one record up. Going through all reports leaves exactly the
difference of the findings and the records as multisets, the first occurrences of a finding being the
covered ones. The invariant is about all counters at once: under every key as many records are left as
there were, less the findings of that key that have been passed.
-/

namespace QueryLint

open Baseline

/-! ### What a finding is recognised by -/

theorem append_separator_inj {α : Type} {separator : α} {front front' back back' : List α}
    (absent : separator ∉ front) (absent' : separator ∉ front')
    (same : front ++ separator :: back = front' ++ separator :: back') :
    front = front' ∧ back = back' := by
  induction front generalizing front' with
  | nil =>
    cases front' with
    | nil => exact ⟨rfl, (List.cons.inj same).2⟩
    | cons c rest =>
      exact absurd ((List.cons.inj same).1 ▸ List.mem_cons_self) absent'
  | cons c rest ih =>
    cases front' with
    | nil => exact absurd ((List.cons.inj same).1 ▸ List.mem_cons_self) absent
    | cons c' rest' =>
      obtain ⟨rfl, tails⟩ := List.cons.inj same
      obtain ⟨rfl, backs⟩ := ih (List.not_mem_of_not_mem_cons absent)
        (List.not_mem_of_not_mem_cons absent') tails
      exact ⟨rfl, backs⟩

@[ext] structure Baseline.Identity where
  path : String
  rule : String
  message : String
deriving DecidableEq

namespace Baseline.Identity

def key (identity : Identity) : String :=
  identity.path ++ "\x00" ++ identity.rule ++ "\x00" ++ identity.message

/-- Neither the path nor the rule has a zero character, which separates the parts of a key. -/
structure Separable (identity : Identity) : Prop where
  path : '\x00' ∉ identity.path.toList
  rule : '\x00' ∉ identity.rule.toList

instance (identity : Identity) : Decidable identity.Separable :=
  decidable_of_iff ('\x00' ∉ identity.path.toList ∧ '\x00' ∉ identity.rule.toList)
    ⟨fun ⟨path, rule⟩ => ⟨path, rule⟩, fun ⟨path, rule⟩ => ⟨path, rule⟩⟩

theorem toList_key (identity : Identity) : identity.key.toList =
    identity.path.toList ++ '\x00' :: (identity.rule.toList ++ '\x00' :: identity.message.toList) := by
  simp [key, String.toList_append]

theorem Separable.key_inj {first second : Identity} (left : first.Separable)
    (right : second.Separable) : first.key = second.key ↔ first = second := by
  constructor
  · intro same
    rw [← String.toList_inj, toList_key, toList_key] at same
    obtain ⟨path, rest⟩ := append_separator_inj left.path right.path same
    obtain ⟨rule, message⟩ := append_separator_inj left.rule right.rule rest
    rw [String.toList_inj] at path rule message
    exact Identity.ext path rule message
  · rintro rfl
    rfl

end Baseline.Identity

def BaselineEntry.identity (entry : BaselineEntry) : Identity :=
  ⟨entry.path, entry.rule, entry.message⟩

theorem BaselineEntry.key_identity (entry : BaselineEntry) : entry.key = entry.identity.key := rfl

def Diagnostic.identity (path : String) (diagnostic : Diagnostic) : Identity :=
  ⟨path, diagnostic.rule, diagnostic.message⟩

@[simp]
theorem BaselineEntry.identity_ofDiagnostic (path : String) (diagnostic : Diagnostic) :
    (BaselineEntry.ofDiagnostic path diagnostic).identity = diagnostic.identity path := rfl

namespace FileReport

def identities (report : FileReport) : List Identity :=
  report.diagnostics.map (·.identity report.path)

/-- The diagnostics before which their finding occurs at least as often as it is recorded. Other
findings stand before the report already. -/
def surplus (recorded before : List Identity) (report : FileReport) : FileReport where
  path := report.path
  diagnostics := (report.diagnostics.zipIdx.filter fun (diagnostic, place) =>
    recorded.count (diagnostic.identity report.path) ≤
      (before ++ report.identities.take place).count (diagnostic.identity report.path)).map Prod.fst

end FileReport

namespace Baseline

def identities (reports : List FileReport) : List Identity :=
  reports.flatMap FileReport.identities

def recorded (entries : List BaselineEntry) : List Identity := entries.map BaselineEntry.identity

/-- The reports with those diagnostics only that occur more often than they are recorded, where some
findings have been passed before. -/
def difference (recorded passed : List Identity) (reports : List FileReport) : List FileReport :=
  reports.mapIdx fun place report =>
    report.surplus recorded (passed ++ identities (reports.take place))

/-! ### The counters -/

/-- Under the key of every finding as many records are left as there were, less the times it has
been passed. -/
def Leaves (baseline : Baseline) (recorded passed : List Identity) : Prop :=
  ∀ identity : Identity, identity.Separable →
    baseline.count identity.key = recorded.count identity - passed.count identity

theorem count_setKey (key other : String) (number : Nat) (baseline : Baseline) :
    Baseline.count ⟨setKey key number baseline.counts⟩ other =
      if other = key then number else baseline.count other := by
  simp only [count, lookup_setKey_eq, beq_iff_eq]
  split <;> rfl

variable {baseline : Baseline} {recorded passed : List Identity} {entry : BaselineEntry}

theorem leaves_record (leaves : baseline.Leaves recorded []) (separable : entry.identity.Separable) :
    (baseline.record entry).Leaves (recorded ++ [entry.identity]) [] := by
  intro other apart
  rw [record, count_setKey, BaselineEntry.key_identity, leaves _ separable, leaves other apart,
    List.count_append, List.count_singleton]
  simp only [apart.key_inj separable, List.count_nil, Nat.sub_zero]
  by_cases same : other = entry.identity
  · rw [if_pos same, same, beq_self_eq_true, if_pos rfl]
  · rw [if_neg same, if_neg fun equal => same (eq_of_beq equal).symm, Nat.add_zero]

theorem leaves_ofEntries {entries : List BaselineEntry}
    (separable : ∀ entry ∈ entries, entry.identity.Separable) :
    (ofEntries entries).Leaves (Baseline.recorded entries) [] := by
  have folded (baseline : Baseline) (earlier : List Identity) (leaves : baseline.Leaves earlier []) :
      (entries.foldl record baseline).Leaves (earlier ++ Baseline.recorded entries) [] := by
    induction entries generalizing baseline earlier with
    | nil =>
      rw [Baseline.recorded, List.map_nil, List.append_nil]
      exact leaves
    | cons entry rest ih =>
      obtain ⟨first, others⟩ := List.forall_mem_cons.1 separable
      rw [Baseline.recorded, List.map_cons, List.append_cons]
      exact ih others _ _ (leaves_record leaves first)
  exact folded {} [] fun _ _ => rfl

/-- A finding is covered if it has been passed fewer times than it is recorded, and is passed
then. -/
theorem suppress_spec (entry : BaselineEntry) (leaves : baseline.Leaves recorded passed)
    (separable : entry.identity.Separable) :
    (baseline.suppress entry).1 =
        decide (passed.count entry.identity < recorded.count entry.identity) ∧
      (baseline.suppress entry).2.Leaves recorded (passed ++ [entry.identity]) := by
  have own := leaves _ separable
  rw [suppress, BaselineEntry.key_identity]
  cases left : baseline.count entry.identity.key with
  | zero =>
    rw [left] at own
    refine ⟨(decide_eq_false (by omega)).symm, fun other apart => ?_⟩
    rw [leaves other apart, List.count_append, List.count_singleton]
    by_cases same : other = entry.identity
    · rw [same]
      omega
    · rw [if_neg fun equal => same (eq_of_beq equal).symm, Nat.add_zero]
  | succ rest =>
    rw [left] at own
    refine ⟨(decide_eq_true (by omega)).symm, fun other apart => ?_⟩
    rw [count_setKey, leaves other apart, List.count_append, List.count_singleton]
    simp only [apart.key_inj separable]
    by_cases same : other = entry.identity
    · rw [if_pos same, same, beq_self_eq_true, if_pos rfl]
      omega
    · rw [if_neg same, if_neg fun equal => same (eq_of_beq equal).symm, Nat.add_zero]

/-! ### One report -/

theorem surplus_cons (recorded before : List Identity) (path : String) (diagnostic : Diagnostic)
    (rest : List Diagnostic) :
    (FileReport.surplus recorded before ⟨path, diagnostic :: rest⟩).diagnostics =
      let others :=
        (FileReport.surplus recorded (before ++ [diagnostic.identity path]) ⟨path, rest⟩).diagnostics
      if before.count (diagnostic.identity path) < recorded.count (diagnostic.identity path)
      then others else diagnostic :: others := by
  -- The place of each later diagnostic moves by one, past the first finding.
  have shifted (place : Nat) : before ++
      (FileReport.identities ⟨path, diagnostic :: rest⟩).take (place + 1) =
        before ++ [diagnostic.identity path] ++ (FileReport.identities ⟨path, rest⟩).take place := by
    rw [List.append_assoc]
    rfl
  simp only [FileReport.surplus, List.zipIdx_cons, Nat.zero_add, List.zipIdx_succ, List.filter_cons,
    List.filter_map, Function.comp_def, shifted, List.take_zero, List.append_nil,
    decide_eq_true_eq]
  by_cases covered : before.count (diagnostic.identity path) <
      recorded.count (diagnostic.identity path)
  · rw [if_neg (Nat.not_le.2 covered), if_pos covered, List.map_map]
    rfl
  · rw [if_pos (Nat.not_lt.1 covered), if_neg covered, List.map_cons, List.map_map]
    rfl

theorem filterFile_spec {path : String} {diagnostics : List Diagnostic}
    (leaves : baseline.Leaves recorded passed)
    (separable : ∀ identity ∈ FileReport.identities ⟨path, diagnostics⟩, identity.Separable) :
    ∃ number final, baseline.filterFile path diagnostics =
        ((FileReport.surplus recorded passed ⟨path, diagnostics⟩).diagnostics, number, final) ∧
      number + (FileReport.surplus recorded passed ⟨path, diagnostics⟩).diagnostics.length =
        diagnostics.length ∧
      final.Leaves recorded (passed ++ FileReport.identities ⟨path, diagnostics⟩) := by
  induction diagnostics generalizing baseline passed with
  | nil =>
    refine ⟨0, baseline, rfl, rfl, ?_⟩
    rwa [FileReport.identities, List.map_nil, List.append_nil]
  | cons diagnostic rest ih =>
    obtain ⟨first, others⟩ := List.forall_mem_cons.1 separable
    obtain ⟨covered, used⟩ := suppress_spec (.ofDiagnostic path diagnostic) leaves first
    rw [BaselineEntry.identity_ofDiagnostic] at covered used
    obtain ⟨number, final, ran, total, left⟩ := ih used others
    have passes : passed ++ FileReport.identities ⟨path, diagnostic :: rest⟩ =
        passed ++ [diagnostic.identity path] ++ FileReport.identities ⟨path, rest⟩ := by
      rw [List.append_assoc]
      rfl
    rw [filterFile, surplus_cons, passes]
    dsimp only
    rw [ran, covered]
    by_cases some : passed.count (diagnostic.identity path) <
        recorded.count (diagnostic.identity path)
    · rw [if_pos some, decide_eq_true some]
      refine ⟨number + 1, final, rfl, ?_, left⟩
      rw [List.length_cons]
      omega
    · rw [if_neg some, decide_eq_false some]
      refine ⟨number, final, rfl, ?_, left⟩
      rw [List.length_cons, List.length_cons]
      omega

theorem identities_surplus_cons (recorded passed : List Identity) (path : String)
    (diagnostic : Diagnostic) (rest : List Diagnostic) :
    (FileReport.surplus recorded passed ⟨path, diagnostic :: rest⟩).identities =
      let others :=
        (FileReport.surplus recorded (passed ++ [diagnostic.identity path]) ⟨path, rest⟩).identities
      if passed.count (diagnostic.identity path) < recorded.count (diagnostic.identity path)
      then others else diagnostic.identity path :: others := by
  rw [FileReport.identities, surplus_cons]
  dsimp only
  split <;> rfl

theorem count_surplus (recorded passed : List Identity) (report : FileReport) (identity : Identity) :
    (report.surplus recorded passed).identities.count identity =
      report.identities.count identity - (recorded.count identity - passed.count identity) := by
  obtain ⟨path, diagnostics⟩ := report
  induction diagnostics generalizing passed with
  | nil => exact (Nat.zero_sub _).symm
  | cons diagnostic rest ih =>
    have later := ih (passed ++ [diagnostic.identity path])
    have passes : FileReport.identities ⟨path, diagnostic :: rest⟩ =
        diagnostic.identity path :: FileReport.identities ⟨path, rest⟩ := rfl
    rw [List.count_append, List.count_singleton] at later
    rw [identities_surplus_cons, passes, List.count_cons]
    dsimp only
    by_cases same : diagnostic.identity path = identity
    · rw [same, beq_self_eq_true, if_pos rfl] at later ⊢
      split
      · omega
      · rw [List.count_cons_self]
        omega
    · have other : ¬(diagnostic.identity path == identity) = true := mt eq_of_beq same
      rw [if_neg other, Nat.add_zero] at later ⊢
      split
      · exact later
      · rw [List.count_cons_of_ne same]
        exact later

/-! ### All reports -/

theorem difference_cons (recorded passed : List Identity) (report : FileReport)
    (rest : List FileReport) :
    difference recorded passed (report :: rest) =
      report.surplus recorded passed ::
        difference recorded (passed ++ report.identities) rest := by
  simp only [difference, List.mapIdx_cons, List.take_zero, List.take_succ_cons, identities,
    List.flatMap_nil, List.flatMap_cons, List.append_nil, List.append_assoc]

theorem apply_spec (reports : List FileReport) (leaves : baseline.Leaves recorded passed)
    (separable : ∀ identity ∈ identities reports, identity.Separable) :
    (baseline.apply reports).1 = difference recorded passed reports ∧
      (baseline.apply reports).2 + (identities (difference recorded passed reports)).length =
        (identities reports).length := by
  induction reports generalizing baseline passed with
  | nil => exact ⟨rfl, rfl⟩
  | cons report rest ih =>
    obtain ⟨path, diagnostics⟩ := report
    rw [identities, List.flatMap_cons, List.forall_mem_append] at separable
    obtain ⟨number, final, ran, total, left⟩ := filterFile_spec leaves separable.1
    obtain ⟨kept, sum⟩ := ih left separable.2
    rw [apply, difference_cons]
    dsimp only
    rw [ran]
    refine ⟨congrArg _ kept, ?_⟩
    simp only [identities, List.flatMap_cons, List.length_append, FileReport.identities,
      List.length_map] at sum ⊢
    omega

theorem count_difference (recorded passed : List Identity) (reports : List FileReport)
    (identity : Identity) :
    (identities (difference recorded passed reports)).count identity =
      (identities reports).count identity -
        (recorded.count identity - passed.count identity) := by
  induction reports generalizing passed with
  | nil => exact (Nat.zero_sub _).symm
  | cons report rest ih =>
    rw [difference_cons, identities, identities, List.flatMap_cons, List.flatMap_cons,
      List.count_append, List.count_append, count_surplus]
    have later := ih (passed ++ report.identities)
    rw [identities, identities, List.count_append] at later
    omega

theorem difference_congr {others : List Identity} (same : others.Perm recorded)
    (passed : List Identity) (reports : List FileReport) :
    difference others passed reports = difference recorded passed reports := by
  simp only [difference, FileReport.surplus, same.count_eq]

/-! ### Records that cover some findings altogether and others not at all -/

theorem surplus_eq_filter {keeps : Identity → Bool} {path : String} {diagnostics : List Diagnostic}
    (unrecorded : ∀ identity, keeps identity = true → recorded.count identity = 0)
    (covered : ∀ identity, keeps identity = false →
      (passed ++ FileReport.identities ⟨path, diagnostics⟩).count identity ≤
        recorded.count identity) :
    (FileReport.surplus recorded passed ⟨path, diagnostics⟩).diagnostics =
      diagnostics.filter fun diagnostic => keeps (diagnostic.identity path) := by
  induction diagnostics generalizing passed with
  | nil => rfl
  | cons diagnostic rest ih =>
    have passes : passed ++ FileReport.identities ⟨path, diagnostic :: rest⟩ =
        passed ++ [diagnostic.identity path] ++ FileReport.identities ⟨path, rest⟩ := by
      rw [List.append_assoc]
      rfl
    rw [passes] at covered
    rw [surplus_cons, List.filter_cons]
    dsimp only
    rw [ih covered]
    cases keep : keeps (diagnostic.identity path) with
    | true => rw [unrecorded _ keep, if_neg (Nat.not_lt_zero _), if_pos rfl]
    | false =>
      have room := covered _ keep
      rw [List.count_append, List.count_append, List.count_singleton_self] at room
      rw [if_pos (by omega), if_neg Bool.false_ne_true]

theorem difference_eq_filter (keeps : Identity → Bool) {reports : List FileReport}
    (unrecorded : ∀ identity, keeps identity = true → recorded.count identity = 0)
    (covered : ∀ identity, keeps identity = false →
      (passed ++ identities reports).count identity ≤ recorded.count identity) :
    difference recorded passed reports = reports.map fun report =>
      ⟨report.path, report.diagnostics.filter fun diagnostic =>
        keeps (diagnostic.identity report.path)⟩ := by
  induction reports generalizing passed with
  | nil => rfl
  | cons report rest ih =>
    rw [identities, List.flatMap_cons, ← List.append_assoc] at covered
    rw [difference_cons, List.map_cons, ih covered]
    have first : ∀ identity, keeps identity = false →
        (passed ++ report.identities).count identity ≤ recorded.count identity :=
      fun identity drop => Nat.le_trans
        ((List.sublist_append_left _ _).count_le identity) (covered identity drop)
    obtain ⟨path, diagnostics⟩ := report
    exact congrArg (FileReport.mk path · :: _) (surplus_eq_filter unrecorded first)

end Baseline

/-! ### Recording all findings and looking for them again -/

theorem Store.baseline_replaceBaseline (store : Store) (entries : List BaselineEntry) :
    (store.replaceBaseline entries).baseline.Perm entries :=
  List.mergeSort_perm _ _

theorem LintRequest.threshold_le {request : LintRequest} {threshold : Severity}
    (valid : request.threshold = .ok threshold) : threshold.rank ≤ Severity.hint.rank := by
  rw [LintRequest.threshold] at valid
  split at valid
  · cases valid
    exact Int.le_refl _
  · split at valid
    next severity named =>
      cases valid
      obtain ⟨entry, found, rfl⟩ := Option.map_eq_some_iff.1 named
      have all : ∀ entry ∈ Severity.named, entry.1.rank ≤ Severity.hint.rank := by decide
      exact all entry (List.mem_of_find?_eq_some found)
    next => cases valid

theorem FileReport.identities_atLeast_sublist {threshold least : Severity}
    (graver : threshold.rank ≤ least.rank) (report : FileReport) :
    (report.atLeast threshold).identities.Sublist (report.atLeast least).identities := by
  refine List.Sublist.map _ (List.monotone_filter_right _ fun diagnostic reaches => ?_)
  rw [Severity.reaches, decide_eq_true_iff] at reaches ⊢
  exact Int.le_trans reaches graver

theorem Baseline.identities_map_sublist (shorter longer : FileReport → FileReport)
    (each : ∀ report, (shorter report).identities.Sublist (longer report).identities)
    (reports : List FileReport) : (Baseline.identities (reports.map shorter)).Sublist
      (Baseline.identities (reports.map longer)) := by
  induction reports with
  | nil => exact List.Sublist.slnil
  | cons report rest ih => exact (each report).append ih

theorem Baseline.identities_atLeast_subset (threshold : Severity) (reports : List FileReport) :
    Baseline.identities (reports.map (·.atLeast threshold)) ⊆ Baseline.identities reports := by
  have fewer := Baseline.identities_map_sublist (·.atLeast threshold) id
    (fun _ => List.filter_sublist.map _) reports
  rw [List.map_id] at fewer
  exact fewer.subset

theorem BaselineCommand.recorded_acceptable (run : LintRun) :
    Baseline.recorded (acceptable run) =
      (Baseline.identities run.reports).filter (·.rule != parseRuleId) := by
  simp only [Baseline.recorded, acceptable, Baseline.identities, List.map_flatMap,
    List.filter_flatMap, FileReport.identities, List.filter_map, List.map_map]
  rfl

theorem LintRequest.outcome_acceptable {reports : List FileReport}
    (findings : ∀ identity ∈ Baseline.identities reports, identity.Separable)
    {arguments : Arguments} {least threshold : Severity} {request : LintRequest}
    {opened : CommandM.OpenStore}
    (all : (BaselineCommand.request arguments).threshold = .ok least)
    (valid : request.threshold = .ok threshold) (asked : request.baseline = true)
    (kept : opened.store.baseline.Perm (BaselineCommand.acceptable
      ((BaselineCommand.request arguments).outcome least reports none))) :
    (request.outcome threshold reports (some opened)).reports = reports.map fun report =>
      ⟨report.path, (report.atLeast threshold).diagnostics.filter (·.rule == parseRuleId)⟩ := by
  obtain rfl : least = .hint := (Except.ok.inj all).symm
  let found := Baseline.identities (reports.map (·.atLeast .hint))
  have records : (Baseline.recorded opened.store.baseline).Perm
      (found.filter (·.rule != parseRuleId)) := by
    have recorded := kept.map BaselineEntry.identity
    rwa [← Baseline.recorded, ← Baseline.recorded, BaselineCommand.recorded_acceptable] at recorded
  have separable : ∀ entry ∈ opened.store.baseline, entry.identity.Separable := by
    intro entry member
    have among := (records.mem_iff.1 (List.mem_map_of_mem member))
    exact findings _ (Baseline.identities_atLeast_subset .hint reports (List.mem_of_mem_filter among))
  have ran := Baseline.apply_spec (reports.map (·.atLeast threshold))
    (Baseline.leaves_ofEntries separable)
    fun identity member => findings _ (Baseline.identities_atLeast_subset threshold reports member)
  have outcome : (request.outcome threshold reports (some opened)).reports =
      ((Baseline.ofEntries opened.store.baseline).apply (reports.map (·.atLeast threshold))).1 := by
    simp only [LintRequest.outcome, asked]
  rw [outcome, ran.1, Baseline.difference_congr records,
    Baseline.difference_eq_filter (·.rule == parseRuleId), List.map_map]
  · rfl
  · intro identity parse
    exact List.count_eq_zero.2 fun member => by
      have other := (List.mem_filter.1 member).2
      rw [bne, parse] at other
      cases other
  · intro identity other
    have graver := LintRequest.threshold_le valid
    rw [List.nil_append, List.count_filter (by rw [bne, other]; rfl)]
    exact (Baseline.identities_map_sublist _ _
      (FileReport.identities_atLeast_sublist graver) reports).count_le identity

namespace Baseline

/-- A baseline takes the recorded findings away as a multiset, the earliest ones first, whatever the
order and the places of the records; all else is kept. After the findings of a run have been
recorded, only what cannot be recorded is found again. -/
theorem apply_exact_difference {entries : List BaselineEntry} {reports : List FileReport}
    (records : ∀ entry ∈ entries, entry.identity.Separable)
    (findings : ∀ identity ∈ identities reports, identity.Separable) :
    (let (kept, suppressed) := (ofEntries entries).apply reports
     kept = difference (recorded entries) [] reports ∧
      (∀ identity, (identities reports).count identity = (identities kept).count identity +
        min ((identities reports).count identity) ((recorded entries).count identity)) ∧
      suppressed + (identities kept).length = (identities reports).length) ∧
    (∀ others, (recorded others).Perm (recorded entries) →
      (ofEntries others).apply reports = (ofEntries entries).apply reports) ∧
    ∀ (arguments : Arguments) (request : LintRequest) (least threshold : Severity)
      (opened : CommandM.OpenStore),
      (BaselineCommand.request arguments).threshold = .ok least →
      request.threshold = .ok threshold → request.baseline = true →
      opened.store.baseline.Perm (BaselineCommand.acceptable
        ((BaselineCommand.request arguments).outcome least reports none)) →
      (request.outcome threshold reports (some opened)).reports = reports.map fun report =>
        ⟨report.path, (report.atLeast threshold).diagnostics.filter (·.rule == parseRuleId)⟩ := by
  obtain ⟨kept, total⟩ := apply_spec reports (leaves_ofEntries records) findings
  refine ⟨⟨kept, fun identity => ?_, ?_⟩, fun others same => ?_, ?_⟩
  · rw [kept, count_difference, List.count_nil]
    omega
  · rwa [kept]
  · have other : ∀ entry ∈ others, entry.identity.Separable := by
      intro entry member
      obtain ⟨recordedEntry, among, equal⟩ :=
        List.mem_map.1 (same.mem_iff.1 (List.mem_map_of_mem member))
      exact equal ▸ records recordedEntry among
    obtain ⟨kept', total'⟩ := apply_spec reports (leaves_ofEntries other) findings
    rw [difference_congr same] at kept' total'
    exact Prod.ext (kept'.trans kept.symm) (Nat.add_right_cancel (total'.trans total.symm))
  · intro arguments request least threshold opened all valid asked held
    exact LintRequest.outcome_acceptable findings all valid asked held

def repeatedReports : List FileReport :=
  let diagnostic (rule : String) (line : Int) : Diagnostic :=
    { rule, severity := .warning, message := "again", span := { start := ⟨line, 1, 0⟩ } }
  [⟨"a.sql", [diagnostic "ST01" 1, diagnostic "parse" 2, diagnostic "ST01" 3]⟩,
    ⟨"b.sql", [diagnostic "ST01" 1]⟩]

def repeatedEntries : List BaselineEntry :=
  [⟨"b.sql", "ST01", "again", 9, 9⟩, ⟨"a.sql", "ST01", "again", 3, 1⟩,
    ⟨"b.sql", "ST01", "again", 1, 1⟩]

/-- The records in another order cover the same, and records of all findings leave the source that
cannot be parsed. -/
theorem repeatedReports_repeatedEntries :
    (∀ entry ∈ repeatedEntries, entry.identity.Separable) ∧
    (∀ identity ∈ identities repeatedReports, identity.Separable) ∧
    (ofEntries repeatedEntries.reverse).apply repeatedReports =
      (ofEntries repeatedEntries).apply repeatedReports ∧
    (difference (recorded repeatedEntries) [] repeatedReports).map (·.diagnostics.map (·.line)) =
      [[2, 3], []] ∧
    let request : LintRequest :=
      { paths := [], choice := ⟨[], []⟩, severity := "warning", baseline := true }
    let run := (BaselineCommand.request {}).outcome .hint repeatedReports none
    let store := ({} : Store).replaceBaseline (BaselineCommand.acceptable run)
    (request.outcome .warning repeatedReports (some ⟨none, store⟩)).reports =
      repeatedReports.map fun report => ⟨report.path,
        (report.atLeast .warning).diagnostics.filter (·.rule == parseRuleId)⟩ := by
  have records : ∀ entry ∈ repeatedEntries, entry.identity.Separable := by decide
  have findings : ∀ identity ∈ identities repeatedReports, identity.Separable := by decide
  obtain ⟨-, reordered, again⟩ := apply_exact_difference records findings
  refine ⟨records, findings, reordered _ ((List.reverse_perm _).map _), by decide, ?_⟩
  exact again {} _ .hint .warning _ rfl (by decide) rfl (Store.baseline_replaceBaseline _ _)

end Baseline

end QueryLint
