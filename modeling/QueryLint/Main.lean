import Std.Time
import QueryLint.Command.Run
import QueryLint.Report.Document

/-!
The command line. What a run may look at is read from the disk, the run is computed, and what it
has changed and written goes back to the disk and to the terminal.
-/

namespace QueryLint.Main

def pathOf (place : FilePlace) : String := "/" ++ "/".intercalate place

def look (place : FilePlace) : IO (Option FileNode) := do
  try
    let path ← IO.FS.realPath (pathOf place)
    if ← path.isDir then return some .directory
    return some (.text (Text.decode (← IO.FS.readBinFile path).toList))
  catch _ => return none

def addPlace (tree : FileTree) (place : FilePlace) : IO FileTree :=
  (List.range place.length).foldlM (fun tree count => do
    let start := place.take (count + 1)
    if (tree.get? start).isSome then return tree
    return match ← look start with
      | some node => tree.set start node
      | none => tree) tree

partial def addSources (tree : FileTree) (place : FilePlace) : IO FileTree := do
  let path ← IO.FS.realPath (pathOf place)
  (← path.readDir).foldlM (fun tree entry => do
    let inner := place ++ [entry.fileName]
    if FileTree.isSource entry.fileName then addPlace tree inner
    else if !FileTree.isHidden entry.fileName && (← look inner) = some .directory then
      addSources (tree.set inner .directory) inner
    else return tree) tree

def addPath (directory : String) (tree : FileTree) (path : String) : IO FileTree := do
  let place := Path.simplify (Path.absolute directory path)
  let tree ← (FileTree.leading path).foldlM (fun tree start =>
    addPlace tree (Path.simplify (Path.absolute directory start))) tree
  if tree.get? place = some .directory then addSources tree place else return tree

def addStore (directory : String) (tree : FileTree) (path : String) : IO FileTree := do
  let tree ← addPath directory tree path
  let place := Path.simplify (Path.absolute directory path)
  return match tree.get? place with
    | some (.text content) =>
      match (Yaml.read? content).bind Store.ofDocument? with
      | some store => tree.set place (.store store)
      | none => tree
    | _ => tree

def save (before after : FileTree) : IO Unit :=
  after.nodes.forM fun (place, node) => do
    if before.get? place = some node then return
    match node with
    | .directory => IO.FS.createDirAll (pathOf place)
    | .text content => IO.FS.writeFile (pathOf place) content
    | .store store => IO.FS.writeFile (pathOf place) (Document.json store.document)

def environment : IO EnvFile.Variables :=
  ProjectConfig.defaults.filterMapM fun (key, _) => do
    let name := ProjectConfig.variableStart ++ Text.upper key
    return (← IO.getEnv name).map (name, ·)

def print (output : Output) : IO Unit := do
  (← IO.getStdout).putStr output.stdout
  (← IO.getStdout).flush
  (← IO.getStderr).putStr output.stderr

def readInput : IO String := do
  return Text.decode (← (← IO.getStdin).readBinToEnd).toList

partial def interact (linter : Linter) (console : Console) (session : Session) : IO Unit := do
  (← IO.getStdout).putStr session.prompt
  (← IO.getStdout).flush
  let line ← (← IO.getStdin).getLine
  if line.isEmpty then return
  let (session, action) := session.read (String.ofList (Text.trimEndList (· == '\n') line.toList))
  let (output, ended) := Session.perform linter console action
  print output
  if !ended then interact linter console session

def surroundings (directory : String) (invocation : Invocation) : IO Host := do
  let arguments := invocation.arguments
  let interactive ← (← IO.getStdin).isTty
  let lints := invocation.command = .lint || invocation.command = .baselineUpdate
  let usesInput := lints && (LintRequest.ofArguments arguments).usesInput interactive
  let host : Host :=
    { files := ← (Program.lookups directory arguments).foldlM (addPath directory) {}
      directory
      environment := ← environment
      input := ← if usesInput then readInput else pure ""
      terminal := ← (← IO.getStdout).isTty
      interactive
      time := (← Std.Time.DateTime.now).toISO8601String
      freshId := toString (← IO.rand 0 (Nat.pow 2 64)) }
  match ProjectConfig.load (Program.configScope host arguments) with
  | .ok config => return { host with files := ← addStore directory host.files config.statePath }
  | .error _ => return host

/-- Runs an invocation with its surroundings, and then its session if it asks for one. -/
def run (host : Host) (arguments : List String) (invocation : Option Invocation) : IO UInt32 := do
  let outcome := Program.run host arguments
  save host.files outcome.files
  print outcome.output
  match outcome.error with
  | some error =>
    if error != .issuesFound then print (.printError ("Error: " ++ error.message))
  | none =>
    if let some (linter, console) := invocation.bind (Program.session? host) then
      print (Session.greeting linter.dialect.name)
      interact linter console {}
  return outcome.exitCode.toUInt32

end QueryLint.Main

open QueryLint in
def main (arguments : List String) : IO UInt32 := do
  let directory := (← IO.currentDir).toString
  match Invocation.read arguments with
  | .ok (.run invocation) =>
    Main.run (← Main.surroundings directory invocation) arguments (some invocation)
  | _ => Main.run { files := {}, directory } arguments none
