import QueryLint.File.Tree
import QueryLint.Project.EnvFile
import QueryLint.Project.LintSection
import QueryLint.Setting.Layer
import QueryLint.Yaml.Document

/-!
The configuration of a project. Settings come from the defaults, from the configuration file, from
environment variables and from the command line, and the later source wins. The project is where
the configuration file is: the file that is named, or the nearest one in the working directory and
those above it.
-/

namespace QueryLint

structure ProjectConfig where
  root : String
  dialect : String
  statePath : String
  verbose : Bool
  output : String
  lint : Option LintSection := none
  /-- The configuration file, if there is one. -/
  file : Option String := none
deriving Inhabited

/-- Why a project has no configuration. -/
inductive ConfigError where
  | fileNotFound (path : String)
  | unreadable (path : String)
  | badEnvFile
  | undecodable
  | badLint (cause : LintConfigError)
deriving DecidableEq, Repr, Inhabited

namespace ConfigError

/-- The message; what exactly is wrong inside a file is not told. -/
def message : ConfigError → String
  | .fileNotFound path => "config file not found: " ++ path
  | .unreadable path => "error reading config file " ++ path ++ ": ..."
  | .badEnvFile => "failed to load .env: ..."
  | .undecodable => "unable to decode config: ..."
  | .badLint cause => "invalid lint configuration: " ++ cause.message

end ConfigError

structure ConfigScope where
  files : FileTree
  /-- The working directory. -/
  directory : String
  environment : EnvFile.Variables := []
  /-- The configuration file that is named. -/
  named : Option String := none
  /-- The settings from the command line. -/
  flags : Settings := []

namespace ProjectConfig

/-- The names of configuration files; the first that exists counts. -/
def fileNames : List String := [".bqlint.yaml", ".bqlint.yml"]

def envFileName : String := ".env"

def defaultDialect : String := "bigquery"
def defaultStatePath : String := ".bqlint/state.db"
def defaultOutput : String := "auto"

def transientPath : String := ":memory:"

def defaults : Settings :=
  [("dialect", .text defaultDialect), ("state_path", .text defaultStatePath),
    ("verbose", .bool false), ("output", .text defaultOutput)]

def searchLevels : Nat := 10

/-- The configuration file in a directory. -/
def fileIn? (files : FileTree) (directory : String) : Option String :=
  (fileNames.map (Path.join directory)).find? (files.contains directory)

def rootOf (scope : ConfigScope) : String :=
  match scope.named with
  | some path => Path.parent (Path.absolute scope.directory path)
  | none =>
    ((Path.ancestors searchLevels scope.directory).find? fun directory =>
      (fileIn? scope.files directory).isSome).getD scope.directory

def fileOf (scope : ConfigScope) (root : String) : Except ConfigError (Option String) :=
  match scope.named with
  | some path =>
    if scope.files.contains scope.directory path then .ok (some path)
    else .error (.fileNotFound path)
  | none => .ok (fileIn? scope.files root)

def readFile (scope : ConfigScope) (path : String) : Except ConfigError Settings :=
  match (scope.files.read scope.directory path).toOption.bind Yaml.readSettings? with
  | some settings => .ok settings
  | none => .error (.unreadable path)

/-- The environment with the variables that the project sets. -/
def environmentIn (scope : ConfigScope) (root : String) : Except ConfigError EnvFile.Variables :=
  let path := Path.join root envFileName
  match scope.files.read scope.directory path with
  | .error .notFound => .ok scope.environment
  | .error _ => .error .badEnvFile
  | .ok content =>
    match EnvFile.read? content with
    | some found => .ok (EnvFile.addTo scope.environment found)
    | none => .error .badEnvFile

def variableStart : String := "BQLINT_"

def ofEnvironment (environment : EnvFile.Variables) : Settings :=
  Settings.ofPaths (environment.filterMap fun (name, value) =>
    match Text.afterStart? variableStart name with
    | some rest => if rest.isEmpty then none else some (Text.lower rest, .text value)
    | none => none)

/-! ### Decoding -/

mutual

/-- Reads the entries of a mapping and sets them in the current ones. The mappings in a list are
taken one after another, null leaves what there is, and a date is a mapping without entries. -/
def readEntries {α : Type} (read : Setting → Option α) (current : Option (List (String × α))) :
    Setting → Option (Option (List (String × α)))
  | .null => some current
  | .map entries => do
    let found ← entries.mapM fun (key, value) => do return (key, ← read value)
    return some (found.foldl (fun all (key, value) => setKey key value all) (current.getD []))
  | .list [] | .moment _ => some (some (current.getD []))
  | .list (item :: items) => do readItems read (← readEntries read current item) items
  | _ => none

def readItems {α : Type} (read : Setting → Option α) (current : Option (List (String × α))) :
    List Setting → Option (Option (List (String × α)))
  | [] => some current
  | item :: items => do readItems read (← readEntries read current item) items

end

def texts? : Option (List (String × String)) → Setting → Option (Option (List (String × String))) :=
  readEntries (Setting.toText? "")

def rules? : Option (List (String × Option Settings)) → Setting →
    Option (Option (List (String × Option Settings))) :=
  readEntries (readEntries some none)

/-- A value that may be absent. -/
def optional {α : Type} (read : Setting → Option α) (current : Option α) :
    Setting → Option (Option α)
  | .null => some current
  | setting => (read setting).map some

/-- The section about rules; in the place of one, a date is a section without entries. -/
def section? : Setting → Option LintSection
  | .map entries => Settings.decode? entries do
    let disabled ← Settings.take Setting.toTexts? "disabled" []
    let severity ← Settings.take texts? "severity" none
    let rules ← Settings.take rules? "rules" none
    return { disabled, severity, rules }
  | .moment _ => some {}
  | _ => none

/-- The configuration that settings describe, with paths as they are written. -/
def decode? (settings : Settings) : Option ProjectConfig := settings.decode? do
  let dialect ← Settings.take Setting.toText? "dialect" ""
  let statePath ← Settings.take Setting.toText? "state_path" ""
  let verbose ← Settings.take Setting.toBool? "verbose" false
  let output ← Settings.take Setting.toText? "output" ""
  let lint ← Settings.take (optional section?) "lint" none
  return { root := "", dialect, statePath, verbose, output, lint }

/-- Whether a path to a store is used as it is. -/
def isFixed (path : String) : Bool :=
  path.isEmpty || path == transientPath || Path.isAbsolute path

/-- The path to the store: a path from the command line starts in the working directory, any other
in the project. -/
def resolveState (scope : ConfigScope) (root path : String) : String :=
  match scope.flags.lookup "state_path" with
  | some (.text given) =>
    if given.isEmpty then path
    else if given == transientPath then given
    else Path.absolute scope.directory given
  | _ => if isFixed path then path else Path.join root path

def load (scope : ConfigScope) : Except ConfigError ProjectConfig := do
  let root := rootOf scope
  let file ← fileOf scope root
  let written ← match file with
    | some path => readFile scope path
    | none => pure []
  let environment ← environmentIn scope root
  let settings :=
    ((defaults.overlay written).overlay (ofEnvironment environment)).overlay scope.flags
  match decode? settings with
  | none => throw .undecodable
  | some config =>
    match (config.lint.getD {}).toConfig with
    | .error cause => throw (.badLint cause)
    | .ok _ =>
      return { config with root, file, statePath := resolveState scope root config.statePath }

end ProjectConfig

end QueryLint
