import QueryLint.Command.Project
import QueryLint.Command.Record

/-!
Running the program: the arguments choose a command, the configuration is loaded, and the command
does its work.
-/

namespace QueryLint

structure Outcome where
  files : FileTree
  output : Output := {}
  error : Option CommandError := none

def Outcome.exitCode (outcome : Outcome) : Nat :=
  match outcome.error with
  | some error => error.exitCode
  | none => 0

namespace Program

def help (command : Command) : Output :=
  .lines (("Usage: " ++ command.title) ::
    ((command.children.filter (· != .help)).map ("  " ++ ·.name) ++
      command.allFlags.map ("  " ++ ·.title)))

def sessionLinter : CommandM Linter := do
  let dialect ← CommandM.dialect
  match (RuleChoice.mk [] []).toConfig (← read).config.lint with
  | .ok config => return .ofConfig config dialect
  | .error error => throw (.lintConfig error)

def perform (command : Command) : CommandM Unit :=
  match command with
  | .version => CommandM.write versionReport
  | .lint => LintCommand.run
  | .rules => RulesCommand.run
  | .init => InitCommand.run
  | .baselineUpdate => BaselineCommand.update
  | .baselineShow => BaselineCommand.list
  | .history => HistoryCommand.run
  | .repl => do let _ ← sessionLinter
  | .program | .baseline | .completion | .help => pure ()

def configScope (host : Host) (arguments : Arguments) : ConfigScope where
  files := host.files
  directory := host.directory
  environment := host.environment
  named := match arguments.text "config" with
    | "" => none
    | path => some path
  flags := arguments.settings

def lookups (directory : String) (arguments : Arguments) : List String :=
  let words := if arguments.words.isEmpty then ["."] else arguments.words
  let named := arguments.text "config"
  let directories := (if named.isEmpty then [] else [Path.parent named]) ++
    Path.ancestors ProjectConfig.searchLevels directory
  words ++ (if named.isEmpty then [] else [named]) ++
    directories.flatMap fun place =>
      (ProjectConfig.envFileName :: ProjectConfig.fileNames).map (Path.join place)

def isFree (command : Command) : Bool := command = .help || command = .completion

def runWith (host : Host) (invocation : Invocation) (config : ProjectConfig) : Outcome :=
  let action : CommandM Unit := do
    if let some path := config.file then
      CommandM.log .debug "using config file" [("path", path)]
    perform invocation.command
  let (result, work) := action ⟨host, config, invocation.arguments⟩ |>.run ⟨host.files, {}⟩
  { files := work.files, output := work.output,
    error := match result with
      | .ok _ => none
      | .error error => some error }

def session? (host : Host) (invocation : Invocation) : Option (Linter × Console) :=
  if invocation.command != .repl then none
  else match ProjectConfig.load (configScope host invocation.arguments) with
    | .error _ => none
    | .ok config =>
      let prepared := do return (← sessionLinter, ← CommandM.console)
      (prepared ⟨host, config, invocation.arguments⟩ |>.run ⟨host.files, {}⟩).1.toOption

def run (host : Host) (arguments : List String) : Outcome :=
  let failed (error : CommandError) : Outcome := { files := host.files, error := some error }
  let written (output : Output) : Outcome := { files := host.files, output }
  match Invocation.read arguments with
  | .error error => failed (.invocation error)
  | .ok (.help command) => written (help command)
  | .ok .version => written (.printLine ("bqlint " ++ programVersion))
  | .ok (.run invocation) =>
    if isFree invocation.command then written {}
    else match ProjectConfig.load (configScope host invocation.arguments) with
      | .error error => failed (.config error)
      | .ok config => runWith host invocation config

end Program

end QueryLint
