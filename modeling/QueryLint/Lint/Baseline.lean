import QueryLint.Dialect.Basic
import QueryLint.Lint.Source

/-!
The baseline: findings that are accepted. A finding is recognised by its file, its rule and its
message, wherever it stands in the file, and each record covers one finding.
-/

namespace QueryLint

structure BaselineEntry where
  path : String
  rule : String
  message : String
  line : Int := 0
  column : Int := 0
deriving DecidableEq, Repr, Inhabited

namespace BaselineEntry

def key (entry : BaselineEntry) : String :=
  entry.path ++ "\x00" ++ entry.rule ++ "\x00" ++ entry.message

def ofDiagnostic (path : String) (diagnostic : Diagnostic) : BaselineEntry :=
  ⟨path, diagnostic.rule, diagnostic.message, diagnostic.line, diagnostic.column⟩

def compare (a b : BaselineEntry) : Ordering :=
  (Ord.compare a.path b.path).then ((Ord.compare a.line b.line).then
    ((Ord.compare a.column b.column).then (Ord.compare a.rule b.rule)))

/-- Entries in order; equal ones keep theirs. -/
def sort (entries : List BaselineEntry) : List BaselineEntry :=
  entries.mergeSort fun a b => (compare a b).isLE

end BaselineEntry

structure Baseline where
  counts : List (String × Nat) := []
deriving DecidableEq, Repr, Inhabited

namespace Baseline

def count (baseline : Baseline) (key : String) : Nat := (baseline.counts.lookup key).getD 0

def record (baseline : Baseline) (entry : BaselineEntry) : Baseline :=
  ⟨setKey entry.key (baseline.count entry.key + 1) baseline.counts⟩

def ofEntries (entries : List BaselineEntry) : Baseline := entries.foldl record {}

def suppress (baseline : Baseline) (entry : BaselineEntry) : Bool × Baseline :=
  match baseline.count entry.key with
  | 0 => (false, baseline)
  | left + 1 => (true, ⟨setKey entry.key left baseline.counts⟩)

/-- The diagnostics of a file that are not covered, the number of those that are, and what is left
of the baseline. -/
def filterFile (baseline : Baseline) (path : String) :
    List Diagnostic → List Diagnostic × Nat × Baseline
  | [] => ([], 0, baseline)
  | diagnostic :: rest =>
    let (covered, left) := baseline.suppress (.ofDiagnostic path diagnostic)
    let (kept, count, final) := filterFile left path rest
    if covered then (kept, count + 1, final) else (diagnostic :: kept, count, final)

def apply (baseline : Baseline) : List FileReport → List FileReport × Nat
  | [] => ([], 0)
  | report :: rest =>
    let (kept, count, left) := baseline.filterFile report.path report.diagnostics
    let (reports, others) := apply left rest
    (⟨report.path, kept⟩ :: reports, count + others)

end Baseline

end QueryLint
