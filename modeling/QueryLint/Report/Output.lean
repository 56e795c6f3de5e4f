import QueryLint.Text.Blank
import QueryLint.Text.Case
import QueryLint.Text.Width

/-!
What a command writes. Output is text for people, Markdown or a document for programs; without a
choice it is text. A console knows the form and whether it is a terminal.
-/

namespace QueryLint

inductive OutputMode where
  | auto
  | text
  | markdown
  | json
deriving DecidableEq, Repr, Inhabited

namespace OutputMode

def name : OutputMode → String
  | .auto => "auto"
  | .text => "text"
  | .markdown => "markdown"
  | .json => "json"

/-- The form that a name chooses, up to letter case and white space; no other name chooses one. -/
def ofName (name : String) : OutputMode :=
  let key := Text.lower (Text.trim name)
  if key == "text" then .text
  else if key == "markdown" || key == "md" then .markdown
  else if key == "json" then .json
  else .auto

end OutputMode

structure Output where
  stdout : String := ""
  stderr : String := ""
deriving DecidableEq, Repr, Inhabited

namespace Output

def append (a b : Output) : Output := ⟨a.stdout ++ b.stdout, a.stderr ++ b.stderr⟩

instance : Append Output := ⟨append⟩

def print (text : String) : Output := { stdout := text }

def printLine (text : String) : Output := print (text ++ "\n")

def printError (text : String) : Output := { stderr := text ++ "\n" }

def concat (outputs : List Output) : Output := outputs.foldl append {}

def lines (texts : List String) : Output := concat (texts.map printLine)

end Output

structure Console where
  mode : OutputMode := .auto
  terminal : Bool := false
deriving DecidableEq, Repr, Inhabited

/-- A text in a style. Styles have no colours; they write tabs as four spaces, and make the lines
of a text with several lines equally wide. -/
def styled (text : String) : String :=
  let plain := Text.replaceAll "\r\n" "\n" (Text.replaceAll "\t" "    " text)
  match Text.splitOn '\n' plain with
  | [line] => line
  | lines =>
    let widest := (lines.map Text.width).foldl max 0
    "\n".intercalate (lines.map (Text.padTo widest false))

namespace Console

def form (console : Console) : OutputMode :=
  if console.mode = .auto then .text else console.mode

/-- A message that something went well; documents have no place for it. -/
def success (console : Console) (message : String) : Output :=
  match console.form with
  | .json => {}
  | .markdown => .printLine message
  | _ => .printLine (styled ("✓ " ++ message))

def warning (message : String) : Output := .printError (styled ("Warning: " ++ message))

def failure (message : String) : Output := .printError (styled ("Error: " ++ message))

def heading (console : Console) (level : Int) (text : String) : Output :=
  if console.form = .markdown then
    .lines [String.ofList (List.replicate (max level 1).toNat '#') ++ " " ++ text, ""]
  else .printLine (styled text)

def statusLine (console : Console) (name status detail : String) : Output :=
  if console.form = .markdown then
    .printLine ("- " ++ name ++ if detail.isEmpty then "" else " (" ++ detail ++ ")")
  else
    let mark := if status == "success" then "✓" else if status == "error" then "✗"
      else if status == "skipped" then "-" else "!"
    .printLine ("  " ++ mark ++ " " ++ name ++ if detail.isEmpty then "" else " " ++ styled detail)

end Console

end QueryLint
