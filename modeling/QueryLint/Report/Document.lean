import QueryLint.Number.Shortest
import QueryLint.Setting.Basic
import QueryLint.Text.Blank
import QueryLint.Text.Quoted

/-!
Settings as documents for programs. The JSON form is indented by two spaces; characters that mean
something in HTML or end a line in a script are written by their code. The YAML form uses blocks.
There keys and texts are written as they stand, so that they must not need quotes, and a text with
several lines is a block of its own.
-/

namespace QueryLint.Document

/-! ### JSON -/

def jsonChar (c : Char) : List Char :=
  match c.toNat with
  | 0x22 => ['\\', '"']
  | 0x5C => ['\\', '\\']
  | 0x08 => ['\\', 'b']
  | 0x09 => ['\\', 't']
  | 0x0A => ['\\', 'n']
  | 0x0C => ['\\', 'f']
  | 0x0D => ['\\', 'r']
  | n =>
    if n < 0x20 || n == 0x3C || n == 0x3E || n == 0x26 || n == 0x2028 || n == 0x2029 then
      '\\' :: 'u' :: Text.hexDigits 4 n
    else [c]

def jsonText (text : String) : String :=
  String.ofList ('"' :: (text.toList.flatMap jsonChar ++ ['"']))

def spaces (count : Nat) : String := String.ofList (List.replicate count ' ')

def bracketed (opening closing : String) (indent : Nat) (items : List String) : String :=
  if items.isEmpty then opening ++ closing
  else
    let lines := items.map fun item => spaces (indent + 2) ++ item
    opening ++ "\n" ++ ",\n".intercalate lines ++ "\n" ++ spaces indent ++ closing

mutual

def jsonValue (indent : Nat) : Setting → String
  | .null => "null"
  | .bool value => if value then "true" else "false"
  | .int value => toString value
  | .number value => Number.documentText value
  | .text value | .moment value => jsonText value
  | .list items => bracketed "[" "]" indent (jsonItems (indent + 2) items)
  | .map entries => bracketed "\x7b" "\x7d" indent (jsonEntries (indent + 2) entries)

def jsonItems (indent : Nat) : List Setting → List String
  | [] => []
  | item :: rest => jsonValue indent item :: jsonItems indent rest

def jsonEntries (indent : Nat) : List (String × Setting) → List String
  | [] => []
  | (key, value) :: rest =>
    (jsonText key ++ ": " ++ jsonValue indent value) :: jsonEntries indent rest

end

def json (value : Setting) : String := jsonValue 0 value ++ "\n"

/-! ### YAML -/

/-- A text as a value on a line or as a block of lines that are indented by `indent`. -/
def yamlText (indent : Nat) (text : String) : String :=
  if text.isEmpty then "\"\""
  else match Text.splitOn '\n' text with
    | [line] => line
    | lines => "|-\n" ++ "\n".intercalate (lines.map fun line =>
        if line.isEmpty then "" else spaces indent ++ line)

mutual

/-- What follows the key or the dash of a value; `step` is the indentation of a level. -/
def yamlValue (step indent : Nat) : Setting → String
  | .null => " null"
  | .bool value => if value then " true" else " false"
  | .int value => " " ++ toString value
  | .number value => " " ++ Number.documentText value
  | .text value => " " ++ yamlText (indent + step) value
  | .moment value => " " ++ value
  | .list [] => " []"
  | .list (item :: rest) => "\n" ++ yamlItems step (indent + step) (item :: rest)
  | .map [] => " \x7b\x7d"
  | .map (entry :: rest) => "\n" ++ yamlEntries step (indent + step) (entry :: rest)

/-- The items of a list; the first entry of an item stands after its dash. -/
def yamlItems (step indent : Nat) : List Setting → String
  | [] => ""
  | .map ((key, value) :: more) :: rest =>
    let first := spaces indent ++ "- " ++ key ++ ":" ++ yamlValue step (indent + 2) value
    let others := if more.isEmpty then "" else "\n" ++ yamlEntries step (indent + 2) more
    first ++ others ++ (if rest.isEmpty then "" else "\n" ++ yamlItems step indent rest)
  | item :: rest =>
    spaces indent ++ "-" ++ yamlValue step indent item ++
      (if rest.isEmpty then "" else "\n" ++ yamlItems step indent rest)

def yamlEntries (step indent : Nat) : List (String × Setting) → String
  | [] => ""
  | (key, value) :: rest =>
    spaces indent ++ key ++ ":" ++ yamlValue step indent value ++
      (if rest.isEmpty then "" else "\n" ++ yamlEntries step indent rest)

end

def yaml (step : Nat) (entries : Settings) : String := yamlEntries step 0 entries ++ "\n"

end QueryLint.Document
