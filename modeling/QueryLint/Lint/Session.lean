import QueryLint.Lint.Source
import QueryLint.Report.Output

/-!
An interactive session. Lines are collected until one ends with a semicolon, and are then linted
together. While nothing is collected, a line that begins with a dot is a command.
-/

namespace QueryLint

def stdinPath : String := "<stdin>"

/-- The lines that wait for the end of a statement. -/
structure Session where
  buffer : String := ""
deriving DecidableEq, Repr, Inhabited

namespace Session

def pending (session : Session) : Bool := !session.buffer.isEmpty

inductive Action where
  /-- Nothing is done; the session goes on. -/
  | wait
  /-- A complete text is linted. -/
  | lint (source : String)
  | command (line : String)
deriving DecidableEq, Repr, Inhabited

/-- The session after a line, and what the line does. A blank line is kept only while lines are
waiting. -/
def read (session : Session) (line : String) : Session × Action :=
  let trimmed := Text.trim line
  if trimmed.isEmpty then
    (if session.pending then ⟨session.buffer ++ "\n"⟩ else session, .wait)
  else if !session.pending && Text.startsWith "." trimmed then (session, .command trimmed)
  else
    let text := session.buffer ++ line ++ "\n"
    if Text.endsWith ";" trimmed then ({}, .lint text) else (⟨text⟩, .wait)

def greeting (dialect : String) : Output :=
  .lines ["bqlint REPL (dialect: " ++ dialect ++ ")", "Type .help for commands, .quit to exit", ""]

def prompt (session : Session) : String := if session.pending then "    ...> " else "bqlint> "

def help : String :=
  "\nCommands:\n" ++
  "  .help           Show this help message\n" ++
  "  .rules          List lint rules\n" ++
  "  .clear          Clear the screen\n" ++
  "  .quit / .exit   Exit the REPL\n\n" ++
  "Tips:\n" ++
  "  - Statements must end with a semicolon (;)\n" ++
  "  - Ctrl+C discards the statement being typed\n" ++
  "  - Use arrow keys to navigate history"

def firstWord (line : String) : String :=
  String.ofList (line.toList.takeWhile fun c => !Text.isBlank c)

def runCommand (line : String) : Output × Bool :=
  let word := firstWord line
  let key := Text.lower word
  if key == ".quit" || key == ".exit" then ({}, true)
  else if key == ".help" then (.printLine help, false)
  else if key == ".rules" then
    (.lines (Rule.all.map fun rule => "  " ++ rule.id ++ "  " ++ rule.name), false)
  else if key == ".clear" then (.print "\x1b[H\x1b[2J", false)
  else (.printError ("Unknown command: " ++ word ++ " (type .help for commands)"), false)

def report (linter : Linter) (console : Console) (source : String) : Output :=
  let diagnostics := linter.lint (Text.encode source)
  if diagnostics.isEmpty then console.success "No issues"
  else .lines (diagnostics.map fun diagnostic =>
    diagnostic.span.start.render ++ ": " ++ diagnostic.message ++ " " ++
      styled ("(" ++ diagnostic.rule ++ ")"))

def perform (linter : Linter) (console : Console) : Action → Output × Bool
  | .wait => ({}, false)
  | .lint source => (report linter console source, false)
  | .command line => runCommand line

end Session

end QueryLint
