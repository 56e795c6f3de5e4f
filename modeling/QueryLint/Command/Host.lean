import QueryLint.Command.Basic
import QueryLint.Project.Config
import QueryLint.Report.Log

/-!
What commands work with: the files and the surroundings in which they run, what they write, and
why they fail. A command that fails keeps what it has written and changed before.
-/

namespace QueryLint

structure Host where
  files : FileTree
  /-- The working directory. -/
  directory : String
  environment : EnvFile.Variables := []
  /-- The standard input. -/
  input : String := ""
  /-- Whether the run has been cancelled before it began. -/
  cancelled : Bool := false
  /-- Whether the output goes to a terminal. -/
  terminal : Bool := false
  /-- Whether the input comes from a terminal. -/
  interactive : Bool := false
  /-- The time of the run. -/
  time : String := ""
  /-- A name that no run has yet. -/
  freshId : String := ""
  /-- How many sources are analysed at a time unless something else is asked for. -/
  processors : Int := 1

inductive OpenFault where
  | directory (path : String) (fault : FileFault)
  | cancelled
  | notStore
deriving DecidableEq, Repr, Inhabited

def OpenFault.message : OpenFault → String
  | .directory path fault =>
    "failed to create state directory: mkdir " ++ path ++ ": " ++ fault.message
  | .cancelled => "failed to ping sqlite database: context canceled"
  | .notStore => "failed to ping sqlite database: file is not a database (26)"

inductive CommandError where
  | invocation (error : InvocationError)
  | config (error : ConfigError)
  | badSeverity (name : String)
  | lintConfig (error : LintConfigError)
  | unknownDialect (name : String)
  | inaccessible (path : String) (fault : FileFault)
  | unreadable (path : String) (fault : FileFault)
  | cancelled
  | closedStore (path : String) (fault : OpenFault)
  | store (error : StoreError)
  | ruleNotFound (id : String)
  | noDirectory (path place : String) (fault : FileFault)
  | configExists (name : String)
  | unwritable (path : String) (fault : FileFault)
  | watchedInput
  /-- Linting succeeds, but there are findings. -/
  | issuesFound
deriving DecidableEq, Repr, Inhabited

namespace CommandError

def message : CommandError → String
  | .invocation error => error.message
  | .config error => error.message
  | .badSeverity name =>
    "invalid severity " ++ Text.quoted name ++ " (want error, warning, info or hint)"
  | .lintConfig error => error.message
  | .unknownDialect name => Dialect.unknownMessage name
  | .inaccessible path fault =>
    "cannot access " ++ path ++ ": stat " ++ path ++ ": " ++ fault.message
  | .unreadable path fault =>
    "failed to read " ++ path ++ ": open " ++ path ++ ": " ++ fault.message
  | .cancelled => "context canceled"
  | .closedStore path fault => "failed to open state database " ++ path ++ ": " ++ fault.message
  | .store error => error.message
  | .ruleNotFound id => "rule " ++ Text.quoted id ++ " not found"
  | .noDirectory path place fault =>
    "failed to create directory " ++ path ++ ": mkdir " ++ place ++ ": " ++ fault.message
  | .configExists name => name ++ " already exists. Use --force to overwrite"
  | .unwritable path fault =>
    "failed to write " ++ path ++ ": open " ++ path ++ ": " ++ fault.message
  | .watchedInput => "--watch cannot read from stdin"
  | .issuesFound => "lint issues found"

def exitCode : CommandError → Nat
  | .issuesFound => 1
  | _ => 2

end CommandError

structure CommandContext where
  host : Host
  config : ProjectConfig
  arguments : Arguments

structure Work where
  files : FileTree
  output : Output := {}

abbrev CommandM := ReaderT CommandContext (ExceptT CommandError (StateM Work))

namespace CommandM

def write (output : Output) : CommandM Unit :=
  modify fun work => { work with output := work.output ++ output }

/-- Writes a message; details only if the configuration asks for them. -/
def log (level : LogLevel) (message : String) (values : List (String × String)) :
    CommandM Unit := do
  if level != .debug || (← read).config.verbose then write (Log.line level message values)

def console : CommandM Console := do
  let context ← read
  let format := context.arguments.text "format"
  let mode := if format.isEmpty then context.config.output else format
  return ⟨.ofName mode, context.host.terminal⟩

def dialect : CommandM Dialect := do
  let name := (← read).config.dialect
  match Dialect.ofName? name with
  | some dialect => return dialect
  | none => throw (.unknownDialect name)

/-! ### Stores -/

/-- A store that is open, and where it is kept; none if it goes with the run. -/
structure OpenStore where
  place : Option FilePlace
  store : Store

/-- Where the store of a path is. An empty path means a store of its own in the working
directory. -/
def storePlace (files : FileTree) (directory path : String) : Except FileFault FilePlace :=
  if path.isEmpty then .ok (Path.simplify directory ++ [""]) else files.locate directory path

def openStore : CommandM OpenStore := do
  let context ← read
  let path := context.config.statePath
  let directory := context.host.directory
  let refuse {α : Type} (fault : OpenFault) : CommandM α := throw (.closedStore path fault)
  let opened ←
    if path == ProjectConfig.transientPath then
      if context.host.cancelled then refuse .cancelled
      pure (OpenStore.mk none {})
    else
      let parent := Path.parent path
      if parent != "." then
        match (← get).files.makeDirectories directory parent with
        | .ok files => modify fun work => { work with files }
        | .error (place, fault) => refuse (.directory place fault)
      if context.host.cancelled then refuse .cancelled
      let files := (← get).files
      match storePlace files directory path with
      | .error _ => refuse .notStore
      | .ok place =>
        match files.get? place with
        | some (.store store) => pure (OpenStore.mk (some place) store)
        | some (.text "") | none =>
          modify fun work => { work with files := files.set place (.store {}) }
          pure (OpenStore.mk (some place) {})
        | some _ => refuse .notStore
  log .debug "state store opened" [("path", "")]
  return opened

def keep (opened : OpenStore) (store : Store) : CommandM Unit :=
  match opened.place with
  | some place => modify fun work => { work with files := work.files.set place (.store store) }
  | none => pure ()

def createRun (store : Store) (files : Nat) : CommandM Store := do
  let host := (← read).host
  log .debug "creating run" [("id", host.freshId), ("files", toString files)]
  return store.createRun host.freshId host.time files

def completeRun (store : Store) (issues : Nat) : CommandM Store := do
  let host := (← read).host
  match store.completeRun host.freshId host.time issues with
  | .ok store => return store
  | .error error => throw (.store error)

end CommandM

end QueryLint
