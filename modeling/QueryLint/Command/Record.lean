import QueryLint.Command.Lint
import QueryLint.Store.Document

/-!
The commands about what is kept from run to run: the baseline and the history.
-/

namespace QueryLint

namespace BaselineCommand

/-- The findings that a baseline can hold; those about sources that cannot be parsed are never
accepted. -/
def acceptable (run : LintRun) : List BaselineEntry :=
  run.reports.flatMap fun report =>
    (report.diagnostics.filter (·.rule != parseRuleId)).map (.ofDiagnostic report.path)

/-- What is linted for the baseline. The run is recorded only once the baseline is kept. -/
def request (arguments : Arguments) : LintRequest where
  paths := arguments.words
  choice := LintRequest.choiceOf arguments
  jobs := arguments.integer "jobs" 0
  record := false

def update : CommandM Unit := do
  let run ← (request (← read).arguments).perform
  let entries := acceptable run
  let count := toString entries.length
  let opened ← CommandM.openStore
  let started ← CommandM.createRun opened.store run.files.toNat
  let replaced := started.replaceBaseline entries
  CommandM.log .debug "baseline replaced" [("entries", count)]
  CommandM.keep opened (← CommandM.completeRun replaced run.issues)
  CommandM.log .debug "baseline updated" [("run", (← read).host.freshId), ("entries", count)]
  CommandM.write ((← CommandM.console).success
    ("Baseline updated: " ++ count ++ " findings in " ++ toString run.files ++ " files"))

def entryTable (entries : List BaselineEntry) : Table where
  titles := ["Path", "Position", "Rule", "Message"]
  rows := entries.map fun entry =>
    [.text entry.path, .text (toString entry.line ++ ":" ++ toString entry.column),
      .text entry.rule, .text entry.message]

def list : CommandM Unit := do
  let console ← CommandM.console
  let entries := (← CommandM.openStore).store.baseline
  CommandM.write <|
    if console.form = .json then .print (Document.json (.list (entries.map BaselineEntry.document)))
    else if entries.isEmpty then .printLine "Baseline is empty"
    else console.table (entryTable entries)

end BaselineCommand

namespace HistoryCommand

def runTable (runs : List Run) : Table where
  titles := ["Started", "Files", "Issues", "Completed"]
  rows := runs.map fun run =>
    [.text run.startedAt, .number run.files, .number run.issues, .text (run.completedAt.getD "-")]

def run : CommandM Unit := do
  let console ← CommandM.console
  let limit := (← read).arguments.integer "limit" 10
  let runs := (← CommandM.openStore).store.latestRuns limit
  CommandM.write <|
    if console.form = .json then .print (Document.json (.list (runs.map Run.document)))
    else if runs.isEmpty then .printLine "No runs recorded"
    else console.table (runTable runs)

end HistoryCommand

end QueryLint
