import QueryLint.Command.Host
import QueryLint.Lint.Session
import QueryLint.Report.Lint

/-!
Linting files or the standard input.
-/

namespace QueryLint

structure LintRequest where
  /-- Files and directories; without any, the standard input is read. -/
  paths : List String
  choice : RuleChoice
  /-- The least grave severity that is reported; if empty, all are. -/
  severity : String := ""
  /-- How many sources are analysed at a time; if not positive, as many as the host suggests. -/
  jobs : Int := 0
  /-- Whether findings in the baseline are left out. -/
  baseline : Bool := false
  /-- Whether the run is recorded. -/
  record : Bool := true
  /-- Whether the standard input may stand for missing paths. -/
  allowsInput : Bool := true

namespace LintRequest

def choiceOf (arguments : Arguments) : RuleChoice :=
  ⟨arguments.texts "disable", arguments.texts "rule"⟩

def ofArguments (arguments : Arguments) : LintRequest where
  paths := arguments.words
  choice := choiceOf arguments
  severity := arguments.text "severity"
  jobs := arguments.integer "jobs" 0
  baseline := arguments.truth "baseline"
  record := !arguments.truth "no-record"

def inputPath : String := "-"

/-- Whether the standard input is linted. A terminal is read only if it is asked for. -/
def usesInput (request : LintRequest) (interactive : Bool) : Bool :=
  request.paths == [inputPath] ||
    (request.paths.isEmpty && request.allowsInput && !interactive)

def threshold (request : LintRequest) : Except CommandError Severity :=
  if request.severity.isEmpty then .ok .hint
  else match Severity.ofName? request.severity with
    | some severity => .ok severity
    | none => .error (.badSeverity request.severity)

def collect (files : FileTree) (directory : String) (paths : List String) :
    Except CommandError (List String) := do
  let found ← paths.mapM fun path =>
    match files.sourcesAt directory path with
    | .ok sources => .ok (sources.map Path.clean)
    | .error fault => .error (.inaccessible path fault)
  return found.flatten.eraseDups.mergeSort

def linter (request : LintRequest) : CommandM Linter := do
  match request.choice.toConfig (← read).config.lint with
  | .error error => throw (.lintConfig error)
  | .ok config => return .ofConfig config (← CommandM.dialect)

def lintSource (linter : Linter) (path content : String) : CommandM FileReport := do
  let source := Text.encode content
  if let some error := linter.syntaxError? source then
    CommandM.log .debug "parse failed" [("path", path), ("error", error.message)]
  return linter.lintFile path source

def lintPath (linter : Linter) (path : String) : CommandM FileReport := do
  let context ← read
  if context.host.cancelled then throw .cancelled
  match (← get).files.read context.host.directory path with
  | .ok content => lintSource linter path content
  | .error fault => throw (.unreadable path fault)

def lintAll (request : LintRequest) (linter : Linter) : CommandM (List FileReport) := do
  let host := (← read).host
  if request.usesInput host.interactive then return [← lintSource linter stdinPath host.input]
  let paths := if request.paths.isEmpty then ["."] else request.paths
  let files ← liftExcept (collect (← get).files host.directory paths)
  CommandM.log .debug "collected files" [("count", toString files.length)]
  let reports ← files.mapM (lintPath linter)
  let jobs := if 0 < request.jobs then request.jobs else host.processors
  CommandM.log .debug "analysed files" [("files", toString files.length), ("jobs", toString jobs)]
  return reports
where
  liftExcept {α : Type} (result : Except CommandError α) : CommandM α :=
    match result with
    | .ok value => return value
    | .error error => throw error

/-- Opens the store if it is needed. Without it a run can go on unless the baseline is asked
for. -/
def openStore? (request : LintRequest) : CommandM (Option CommandM.OpenStore) := do
  if !request.baseline && !request.record then return none
  try
    return some (← CommandM.openStore)
  catch error =>
    if request.baseline then throw error
    CommandM.log .warning "state database unavailable, run not recorded" [("error", error.message)]
    return none

/-- What a run reports of all that was found: what is grave enough and, if the baseline is asked
for, not covered by it. -/
def outcome (request : LintRequest) (threshold : Severity) (all : List FileReport)
    (opened : Option CommandM.OpenStore) : LintRun :=
  let reports := all.map (·.atLeast threshold)
  let (reports, suppressed) := match opened, request.baseline with
    | some opened, true => (Baseline.ofEntries opened.store.baseline).apply reports
    | _, _ => (reports, 0)
  ⟨reports, all.length, suppressed⟩

def perform (request : LintRequest) : CommandM LintRun := do
  let threshold ← match request.threshold with
    | .ok threshold => pure threshold
    | .error error => throw error
  let linter ← request.linter
  let all ← request.lintAll linter
  let opened ← request.openStore?
  let run := request.outcome threshold all opened
  if request.record then
    if let some opened := opened then
      let started ← CommandM.createRun opened.store all.length
      CommandM.keep opened (← CommandM.completeRun started run.issues)
  return run

end LintRequest

namespace LintCommand

def report (run : LintRun) : CommandM Unit := do
  let console ← CommandM.console
  CommandM.write (LintReport.render console run)
  if (← read).arguments.truth "summary" then CommandM.write (LintReport.renderTable console run)

def once : CommandM Unit := do
  let run ← (LintRequest.ofArguments (← read).arguments).perform
  report run
  if 0 < run.issues then throw .issuesFound

/-- The first pass of the command `lint` when it is to go on with every change. Its failure does
not end the command. -/
def watch : CommandM Unit := do
  let context ← read
  let request := { LintRequest.ofArguments context.arguments with allowsInput := false }
  let paths := if request.paths.isEmpty then ["."] else request.paths
  if paths.contains LintRequest.inputPath then throw .watchedInput
  for path in paths do
    if let .error fault := (← get).files.find context.host.directory path then
      throw (.inaccessible path fault)
  try
    report (← { request with paths }.perform)
    CommandM.write (.printLine
      (styled ("Watching " ++ ", ".intercalate paths ++ " for changes (Ctrl+C to stop)")))
  catch error => CommandM.write (Console.failure error.message)

def run : CommandM Unit := do
  if (← read).arguments.truth "watch" then watch else once

end LintCommand

end QueryLint
