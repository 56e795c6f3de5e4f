import QueryLint.Command.Flag
import QueryLint.Text.Case

/-!
The commands, their flags and how an invocation names one of them.
-/

namespace QueryLint

inductive Command where
  /-- The program itself. -/
  | program
  | version
  | lint
  | rules
  | init
  | baseline
  | baselineUpdate
  | baselineShow
  | history
  | repl
  | completion
  | help
deriving DecidableEq, Repr, Inhabited

namespace Command

def name : Command → String
  | .program => "bqlint"
  | .version => "version"
  | .lint => "lint"
  | .rules => "rules"
  | .init => "init"
  | .baseline => "baseline"
  | .baselineUpdate => "update"
  | .baselineShow => "show"
  | .history => "history"
  | .repl => "repl"
  | .completion => "completion"
  | .help => "help"

def children : Command → List Command
  | .program =>
    [.version, .lint, .rules, .init, .baseline, .history, .repl, .completion, .help]
  | .baseline => [.baselineUpdate, .baselineShow]
  | _ => []

def title : Command → String
  | .program => "bqlint"
  | .baselineUpdate => "bqlint baseline update"
  | .baselineShow => "bqlint baseline show"
  | command => "bqlint " ++ command.name

/-! ### Flags -/

def configFlags : List Flag :=
  [{ name := "config", kind := .text, setting := some "config" },
    { name := "state", kind := .text, setting := some "state_path" },
    { name := "dialect", kind := .text, setting := some "dialect" },
    { name := "verbose", letter := some 'v', kind := .truth, setting := some "verbose" },
    { name := "output", letter := some 'o', kind := .text, setting := some "output" }]

def formatFlag : Flag := { name := "format", letter := some 'f', kind := .text }
def disableFlag : Flag := { name := "disable", kind := .texts }
def ruleFlag : Flag := { name := "rule", kind := .texts }
def jobsFlag : Flag := { name := "jobs", letter := some 'j', kind := .integer }
def helpFlag : Flag := { name := "help", letter := some 'h', kind := .truth }
def versionFlag : Flag := { name := "version", kind := .truth }

def ownFlags : Command → List Flag
  | .lint =>
    [formatFlag, disableFlag, { name := "severity", kind := .text }, ruleFlag, jobsFlag,
      { name := "baseline", kind := .truth }, { name := "summary", kind := .truth },
      { name := "watch", letter := some 'w', kind := .truth },
      { name := "no-record", kind := .truth }]
  | .rules =>
    [{ name := "group", letter := some 'g', kind := .text },
      { name := "verbose", letter := some 'V', kind := .truth }, formatFlag]
  | .init => [{ name := "force", kind := .truth }]
  | .baselineUpdate => [disableFlag, ruleFlag, jobsFlag]
  | .baselineShow => [formatFlag]
  | .history => [{ name := "limit", letter := some 'n', kind := .integer }, formatFlag]
  | _ => []

/-- The flags of a command: its own and, except where it has one of the same name, those about the
configuration. -/
def flags (command : Command) : List Flag :=
  command.ownFlags ++
    configFlags.filter fun flag => (Flag.find? command.ownFlags flag.name).isNone

def allFlags (command : Command) : List Flag :=
  command.flags ++ [helpFlag] ++ if command = .program then [versionFlag] else []

/-! ### Finding a command -/

def depth : Nat := 2

/-- The command that arguments name, below a given one, and the arguments without its name. -/
def descend : Nat → Command → List String → Command × List String
  | 0, command, arguments => (command, arguments)
  | levels + 1, command, arguments =>
    match Flag.words command.flags arguments with
    | [] => (command, arguments)
    | word :: _ =>
      match command.children.find? (·.name == word) with
      | some child => descend levels child (Flag.dropWord command.flags word arguments)
      | none => (command, arguments)

/-- The next row in the table of edit distances: the distance of `c` after what was read before,
whose distances `above` are, to each start of a word. -/
def distanceRow (c : UInt8) : Nat → List UInt8 → List Nat → List Nat
  | left, d :: word, diagonal :: above :: rest =>
    let here := if c = d then diagonal else min (min left above) diagonal + 1
    here :: distanceRow c here word (above :: rest)
  | _, _, _ => []

/-- How many bytes must be inserted, removed or replaced to make one text the other, without
regard to letter case. -/
def editDistance (a b : String) : Nat :=
  let word := Text.encode (Text.lower b)
  let first := List.range (word.length + 1)
  let last := (Text.encode (Text.lower a)).foldl (fun row c =>
    let start := row.headD 0 + 1
    start :: distanceRow c start word row) first
  last.getLastD 0

def suggestions (command : Command) (word : String) : List Command :=
  command.children.filter fun child =>
    child != .help && (editDistance word child.name ≤ 2 ||
      Text.startsWith (Text.lower word) child.name)

def hint (command : Command) (word : String) : String :=
  match command.suggestions word with
  | [] => ""
  | found => "\n\nDid you mean this?\n" ++
      String.join (found.map fun child => "\t" ++ child.name ++ "\n")

end Command

inductive InvocationError where
  | flag (error : FlagError)
  | unknownCommand (word : String) (command : Command) (hint : String)
  | tooManyWords (most count : Nat)
  | wrongCount (expected count : Nat)
  | badWord (word : String) (command : Command)
deriving DecidableEq, Repr, Inhabited

namespace InvocationError

def message : InvocationError → String
  | .flag error => error.message
  | .unknownCommand word command hint =>
    "unknown command " ++ Text.quoted word ++ " for " ++ Text.quoted command.title ++ hint
  | .tooManyWords most count =>
    "accepts at most " ++ toString most ++ " arg(s), received " ++ toString count
  | .wrongCount expected count =>
    "accepts " ++ toString expected ++ " arg(s), received " ++ toString count
  | .badWord word command =>
    "invalid argument " ++ Text.quoted word ++ " for " ++ Text.quoted command.title

end InvocationError

structure Invocation where
  command : Command
  arguments : Arguments := {}
deriving DecidableEq, Repr, Inhabited

namespace Invocation

def shells : List String := ["bash", "zsh", "fish", "powershell"]

def checkWords (command : Command) (words : List String) : Except InvocationError Unit :=
  match command with
  | .baselineShow | .history | .repl =>
    match words with
    | [] => .ok ()
    | word :: _ => .error (.unknownCommand word command "")
  | .rules | .init =>
    if words.length ≤ 1 then .ok () else .error (.tooManyWords 1 words.length)
  | .completion =>
    match words with
    | [word] => if shells.contains word then .ok () else .error (.badWord word command)
    | _ => .error (.wrongCount 1 words.length)
  | _ => .ok ()

inductive Request where
  | help (command : Command)
  | version
  | run (invocation : Invocation)
deriving DecidableEq, Repr, Inhabited

def isRunnable (command : Command) : Bool := command != .program && command != .baseline

def read (arguments : List String) : Except InvocationError Request := do
  let (command, rest) := Command.descend Command.depth .program arguments
  match command, Flag.words command.flags rest with
  | .program, word :: _ => throw (.unknownCommand word command (command.hint word))
  | _, _ => pure ()
  match Flag.read command.allFlags rest with
  | .error error => throw (.flag error)
  | .ok found =>
    if found.truth "help" then return .help command
    if found.truth "version" && command = .program then return .version
    if !isRunnable command then return .help command
    checkWords command found.words
    return .run ⟨command, found⟩

end Invocation

end QueryLint
