import QueryLint.Lint.Catalog
import QueryLint.Lint.Config

/-!
The part of a project's configuration that is about rules, and how it becomes the configuration of
an analysis together with what the command line asks for.
-/

namespace QueryLint

/-- Rules that are off, severities and options by rule, as they are written. -/
structure LintSection where
  disabled : List String := []
  severity : Option (List (String × String)) := none
  rules : Option (List (String × Option Settings)) := none
deriving Inhabited

inductive LintConfigError where
  | invalidSeverity (name rule : String)
  | unknownRule (id : String)
deriving DecidableEq, Repr, Inhabited

namespace LintConfigError

def message : LintConfigError → String
  | .invalidSeverity name rule => "invalid severity " ++ Text.quoted name ++ " for rule " ++
      Text.upper rule ++ " (want error, warning, info or hint)"
  | .unknownRule id => "unknown rule " ++ Text.quoted id

end LintConfigError

namespace LintSection

def addSeverities (config : LintConfig) :
    List (String × String) → Except LintConfigError LintConfig
  | [] => .ok config
  | (id, name) :: rest =>
    match Severity.ofName? name with
    | some severity => addSeverities (config.setSeverity id severity) rest
    | none => .error (.invalidSeverity name id)

/-- The configuration that a section asks for. Severities are set in the order of the rules, so
that the first bad one is reported and the last spelling of a rule counts. -/
def toConfig (lint : LintSection) : Except LintConfigError LintConfig := do
  let disabled := lint.disabled.foldl LintConfig.disable {}
  let severities := (lint.severity.getD []).mergeSort fun a b => (compare a.1 b.1).isLE
  let config ← addSeverities disabled severities
  return (lint.rules.getD []).foldl
    (fun config (id, options) => config.setOptions id options) config

end LintSection

/-- What the command line says about rules: those that are off and, if any, the only ones to
run. -/
structure RuleChoice where
  disable : List String := []
  only : List String := []
deriving DecidableEq, Repr, Inhabited

namespace RuleChoice

def restrict (config : LintConfig) : List String → Except LintConfigError LintConfig
  | [] => .ok config
  | id :: rest =>
    let id := Text.trim id
    if (Rule.find? id).isSome then restrict (config.restrictTo id) rest
    else .error (.unknownRule id)

/-- The configuration of an analysis: the project's section, if there is one, and then this
choice. -/
def toConfig (choice : RuleChoice) (lint : Option LintSection) :
    Except LintConfigError LintConfig := do
  let config ← (lint.getD {}).toConfig
  let disable := (choice.disable.map Text.trim).filter (!·.isEmpty)
  restrict (disable.foldl LintConfig.disable config) choice.only

end RuleChoice

end QueryLint
