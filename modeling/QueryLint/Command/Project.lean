import QueryLint.Command.Host
import QueryLint.Report.Rules

/-!
The commands that set up a project and tell about the program.
-/

namespace QueryLint

namespace InitCommand

def settings : Settings :=
  let configurable := Rule.all.filter (!·.configKeys.isEmpty)
  [("dialect", .text ProjectConfig.defaultDialect),
    ("state_path", .text ProjectConfig.defaultStatePath),
    ("output", .text ProjectConfig.defaultOutput),
    ("lint", .map
      [("severity", .map (Rule.all.map fun rule => (rule.id, .text rule.severity.name))),
        ("rules", .map (configurable.map fun rule =>
          (rule.id, .map (rule.configKeys.map fun key => (key, .list [])))))])]

def content : String :=
  "# bqlint configuration\n# Severity levels: error, warning, info, hint\n" ++
    Document.yaml 4 settings

def fileName : String := ProjectConfig.fileNames.headD ""

def report (console : Console) (path : String) : Output :=
  console.statusLine path "success" "" ++ .printLine "" ++
    console.success "bqlint initialized!" ++ .lines ["", "Next steps:",
      "  1. Tune rule severities in " ++ fileName,
      "  2. Run 'bqlint lint .' to check your SQL",
      "  3. Run 'bqlint baseline update .' to accept existing findings"]

def run : CommandM Unit := do
  let context ← read
  let directory := context.host.directory
  let target := context.arguments.words.headD "."
  match (← get).files.makeDirectories directory target with
  | .ok files => modify fun work => { work with files }
  | .error (place, fault) => throw (.noDirectory target place fault)
  let files := (← get).files
  if !context.arguments.truth "force" then
    if let some name := ProjectConfig.fileNames.find? fun name =>
        files.contains directory (Path.join target name) then
      throw (.configExists name)
  let path := Path.join target fileName
  match files.write directory path content with
  | .ok files => modify fun work => { work with files }
  | .error fault => throw (.unwritable path fault)
  CommandM.write (report (← CommandM.console) path)
  CommandM.log .debug "wrote config" [("path", path), ("rules", toString Rule.all.length)]

end InitCommand

namespace RulesCommand

def run : CommandM Unit := do
  let arguments := (← read).arguments
  let console ← CommandM.console
  let format := arguments.text "format"
  match arguments.words with
  | [] =>
    CommandM.write (RuleReport.list console format (arguments.text "group")
      (arguments.truth "verbose"))
  | id :: _ =>
    match Rule.find? id with
    | some rule => CommandM.write (RuleReport.page console format rule)
    | none => throw (.ruleNotFound id)

end RulesCommand

def programVersion : String := "0.1.0"

def versionReport : Output :=
  .lines ["bqlint v" ++ programVersion, "commit unknown, built unknown"]

end QueryLint
