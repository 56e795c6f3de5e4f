import QueryLint.Lint.Catalog
import QueryLint.Report.Document
import QueryLint.Report.Output
import QueryLint.Text.Utf8

/-!
Describing the rules: a list of them by group, or everything about one rule.
-/

namespace QueryLint.RuleReport

/-- The rules of a group, or all if the group is empty. -/
def select (group : String) : List Rule :=
  if group.isEmpty then Rule.all
  else Rule.all.filter fun rule => Text.sameIgnoringCase rule.group group

def arrange (rules : List Rule) : List Rule :=
  rules.mergeSort fun a b => ((compare a.group b.group).then (compare a.id b.id)).isLE

/-- A text on one line of at most so many bytes, the last three of them dots if it is cut. -/
def shorten (text : String) (size : Nat) : String :=
  let bytes := Text.encode (Text.replaceAll "\n" " " text)
  if bytes.length ≤ size then Text.decode bytes
  else Text.decode (bytes.take (size - 3)) ++ "..."

/-- A text whose first byte is in upper case; the bytes of a longer character are separated by
that. -/
def capitalize (text : String) : String :=
  match Text.encode text with
  | [] => ""
  | byte :: rest =>
    (if byte < 0x80 then Text.upper (Text.decode [byte]) else Text.decode [byte]) ++
      Text.decode rest

/-! ### Documents -/

def nonempty (key text : String) : Settings := if text.isEmpty then [] else [(key, .text text)]

def texts (key : String) (items : List String) : Settings :=
  if items.isEmpty then [] else [(key, .list (items.map .text))]

def entries (rule : Rule) : Settings :=
  [("id", .text rule.id), ("name", .text rule.name), ("group", .text rule.group),
    ("description", .text rule.description), ("default_severity", .text rule.severity.name)] ++
  texts "config_keys" rule.configKeys ++ texts "dialects" rule.dialects ++
  nonempty "rationale" rule.rationale ++ nonempty "bad_example" rule.badExample ++
  nonempty "good_example" rule.goodExample ++ nonempty "fix" rule.fix

def listEntries (rules : List Rule) (none : Setting) : Settings :=
  [("rules", if rules.isEmpty then none else .list (rules.map fun rule => .map (entries rule))),
    ("count", .int rules.length)]

/-! ### Lists -/

/-- What stands before the rules of a group: a heading where the group begins. -/
def withHeadings (heading : Bool → String → List String) (line : Rule → List String) :
    Option String → List Rule → List String
  | _, [] => []
  | group, rule :: rest =>
    (if group = some rule.group then [] else heading group.isNone rule.group) ++ line rule ++
      withHeadings heading line (some rule.group) rest

def textLines (verbose : Bool) (rules : List Rule) : List String :=
  let line (rule : Rule) : List String :=
    ("    " ++ rule.id ++ "  " ++ rule.name ++ " - " ++ rule.severity.name) ::
      if verbose then
        ["        " ++ rule.description,
          "        Why: " ++ shorten rule.rationale 80, ""]
      else []
  ["Lint Rules (" ++ toString rules.length ++ ")", ""] ++
    withHeadings (fun _ group => ["  " ++ capitalize group]) line none rules ++
    ["", "Use 'bqlint rules <rule-id>' for detailed documentation"]

def markdownLines (verbose : Bool) (rules : List Rule) : List String :=
  let heading (first : Bool) (group : String) : List String :=
    (if first then [] else [""]) ++ ["## " ++ capitalize group, ""]
  let line (rule : Rule) : List String :=
    ("- **" ++ rule.id ++ "** - " ++ rule.name ++ " (`" ++ rule.severity.name ++ "`)") ::
      if verbose then ["  " ++ rule.description, "  > " ++ rule.rationale] else []
  ["# Lint Rules", ""] ++ withHeadings heading line none rules

/-! ### One rule -/

def textPage (rule : Rule) : List String :=
  let indented (text : String) : List String := (Text.splitOn '\n' text).map ("  " ++ ·)
  [rule.id ++ " - " ++ rule.name, "", "  Group: " ++ rule.group,
    "  Severity: " ++ rule.severity.name, "", "Description", "  " ++ rule.description, "",
    "Why This Matters", "  " ++ rule.rationale, "", "Bad Example"] ++ indented rule.badExample ++
  ["", "Good Example"] ++ indented rule.goodExample ++ ["", "How to Fix", "  " ++ rule.fix, ""] ++
  if rule.configKeys.isEmpty then []
  else ["Configuration", "  Options: " ++ ", ".intercalate rule.configKeys, ""]

def markdownPage (rule : Rule) : List String :=
  let code (title text : String) : List String :=
    ["## " ++ title, "", "```sql", text, "```", ""]
  ["# " ++ rule.id ++ " - " ++ rule.name, "",
    "**Group:** " ++ rule.group ++ " | **Severity:** `" ++ rule.severity.name ++ "`", "",
    rule.description, "", "## Why This Matters", "", rule.rationale, ""] ++
  code "Bad Example" rule.badExample ++ code "Good Example" rule.goodExample ++
  ["## How to Fix", "", rule.fix, ""] ++
  if rule.configKeys.isEmpty then []
  else ["## Configuration", "", "Options: `" ++ "`, `".intercalate rule.configKeys ++ "`", ""]

/-! ### Writing -/

def isYaml (format : String) : Bool := ["yaml", "yml"].contains (Text.lower format)

def list (console : Console) (format group : String) (verbose : Bool) : Output :=
  let rules := arrange (select group)
  if isYaml format then .print (Document.yaml 2 (listEntries rules (.list [])))
  else match console.form with
    | .json => .print (Document.json (.map (listEntries rules .null)))
    | .markdown => .lines (markdownLines verbose rules)
    | _ => .lines (textLines verbose rules)

def page (console : Console) (format : String) (rule : Rule) : Output :=
  if isYaml format then .print (Document.yaml 2 (entries rule))
  else match console.form with
    | .json => .print (Document.json (.map (entries rule)))
    | .markdown => .lines (markdownPage rule)
    | _ => .lines (textPage rule)

end QueryLint.RuleReport
