import QueryLint.Lint.Baseline
import QueryLint.Report.Document
import QueryLint.Report.Table

/-!
Reporting the results of linting.
-/

namespace QueryLint

structure LintRun where
  reports : List FileReport
  files : Int
  /-- How many findings the baseline covers. -/
  suppressed : Int := 0
deriving DecidableEq, Repr, Inhabited

structure LintSummary where
  files : Int
  total : Int
  errors : Int
  warnings : Int
  info : Int
  hints : Int
  suppressed : Int
deriving DecidableEq, Repr, Inhabited

def FileReport.atLeast (threshold : Severity) (report : FileReport) : FileReport :=
  { report with diagnostics := report.diagnostics.filter (·.severity.reaches threshold) }

namespace LintRun

def diagnostics (run : LintRun) : List Diagnostic := run.reports.flatMap (·.diagnostics)

def issues (run : LintRun) : Nat := run.diagnostics.length

def summary (run : LintRun) : LintSummary :=
  let count (severity : Severity) : Int :=
    (run.diagnostics.filter (·.severity == severity)).length
  { files := run.files, total := run.issues, errors := count .error, warnings := count .warning,
    info := count .info, hints := count .hint, suppressed := run.suppressed }

def offending (run : LintRun) : List FileReport :=
  run.reports.filter (!·.diagnostics.isEmpty)

end LintRun

/-- The numbers that are not zero, the total in any case. -/
def LintSummary.text (summary : LintSummary) : String :=
  let part (count : Int) (what : String) : List String :=
    if 0 < count then [toString count ++ what] else []
  ", ".intercalate ((toString summary.total ++ " issues") ::
    (part summary.errors " errors" ++ part summary.warnings " warnings" ++
      part summary.info " info" ++ part summary.hints " hints" ++
      part summary.suppressed " suppressed by baseline"))

namespace LintReport

/-! ### The document -/

def nonzero (key : String) (value : Int) : Settings :=
  if value = 0 then [] else [(key, .int value)]

def summaryDocument (summary : LintSummary) : Setting :=
  .map ([("files_analyzed", .int summary.files), ("total_issues", .int summary.total),
    ("errors", .int summary.errors), ("warnings", .int summary.warnings),
    ("info", .int summary.info), ("hints", .int summary.hints)] ++
    nonzero "suppressed" summary.suppressed)

def diagnosticDocument (diagnostic : Diagnostic) : Setting :=
  .map ([("rule_id", .text diagnostic.rule), ("severity", .text diagnostic.severity.name),
    ("message", .text diagnostic.message), ("line", .int diagnostic.line),
    ("column", .int diagnostic.column)] ++
    nonzero "end_line" diagnostic.span.stop.line ++
    nonzero "end_column" diagnostic.span.stop.column ++
    if diagnostic.documentation.isEmpty then []
    else [("documentation_url", .text diagnostic.documentation)])

def document (run : LintRun) : Setting :=
  .map [("summary", summaryDocument run.summary), ("files", .list (run.offending.map fun report =>
    .map [("path", .text report.path),
      ("diagnostics", .list (report.diagnostics.map diagnosticDocument))]))]

/-! ### Text -/

def markdownFile (report : FileReport) : List String :=
  ["## " ++ report.path, ""] ++ report.diagnostics.map (fun diagnostic =>
    "- `" ++ diagnostic.span.start.render ++ "` **" ++ diagnostic.rule ++ "** (" ++
      diagnostic.severity.name ++ "): " ++ diagnostic.message) ++ [""]

def closing (run : LintRun) : String :=
  run.summary.text ++ " in " ++ toString run.files ++ " files"

def markdown (run : LintRun) : Output :=
  .lines (["# Lint Results", ""] ++ run.offending.flatMap markdownFile ++
    ["**Summary:** " ++ closing run])

/-- One finding on a line. Terminals also show its severity and its rule. -/
def textLine (console : Console) (path : String) (diagnostic : Diagnostic) : String :=
  styled path ++ ":" ++ diagnostic.span.start.render ++ ": " ++ diagnostic.message ++
    if console.terminal then "  " ++ diagnostic.severity.name ++ " " ++ styled diagnostic.rule
    else ""

def text (console : Console) (run : LintRun) : Output :=
  .lines (run.reports.flatMap (fun report =>
    report.diagnostics.map (textLine console report.path)) ++
    if console.terminal then ["", "Summary: " ++ closing run] else [])

def render (console : Console) (run : LintRun) : Output :=
  match console.form with
  | .json => .print (Document.json (document run))
  | form =>
    if run.issues = 0 then console.success "No lint issues found"
    else if form = .markdown then markdown run
    else text console run

/-! ### Findings per rule -/

/-- How often a rule occurs, with the severity of its first finding. -/
structure RuleCount where
  rule : String
  severity : Severity
  count : Nat
deriving DecidableEq, Repr, Inhabited

def countRule (counts : List RuleCount) (diagnostic : Diagnostic) : List RuleCount :=
  if counts.any (·.rule == diagnostic.rule) then
    counts.map fun entry =>
      if entry.rule == diagnostic.rule then { entry with count := entry.count + 1 } else entry
  else counts ++ [⟨diagnostic.rule, diagnostic.severity, 1⟩]

def ruleCounts (run : LintRun) : List RuleCount :=
  (run.diagnostics.foldl countRule []).mergeSort fun a b => (compare a.rule b.rule).isLE

def ruleTable (run : LintRun) : Table where
  titles := ["Rule", "Name", "Severity", "Count"]
  rows := (ruleCounts run).map fun entry =>
    [.text entry.rule, .text (((Rule.find? entry.rule).map (·.name)).getD entry.rule),
      .text entry.severity.name, .number entry.count]

/-- Writes the table of findings per rule; documents have no place for it. -/
def renderTable (console : Console) (run : LintRun) : Output :=
  if console.form = .json then {}
  else .printLine "" ++ console.table (ruleTable run)

end LintReport

end QueryLint
