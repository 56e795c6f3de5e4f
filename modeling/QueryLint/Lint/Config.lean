import QueryLint.Dialect.Basic
import QueryLint.Lint.Severity
import QueryLint.Setting.Decode

/-!
Which rules run, how grave their findings are and which options they get. Rules are named by their
identifiers without regard to letter case. A rule that is switched off stays off even if it is
among the only rules to run.
-/

namespace QueryLint

/-- The form under which the spellings of a rule's identifier are the same. -/
def ruleKey (id : String) : String := Text.upper id

structure LintConfig where
  disabled : List String := []
  /-- If not empty, no other rules run. -/
  only : List String := []
  severities : List (String × Severity) := []
  /-- Options by rule; a rule can be listed without any. -/
  options : List (String × Option Settings) := []
deriving Inhabited

namespace LintConfig

def disable (config : LintConfig) (id : String) : LintConfig :=
  { config with disabled := config.disabled.insert (ruleKey id) }

def restrictTo (config : LintConfig) (id : String) : LintConfig :=
  { config with only := config.only.insert (ruleKey id) }

def setSeverity (config : LintConfig) (id : String) (severity : Severity) : LintConfig :=
  { config with severities := setKey (ruleKey id) severity config.severities }

def setOptions (config : LintConfig) (id : String) (options : Option Settings) : LintConfig :=
  { config with options := setKey (ruleKey id) options config.options }

def isDisabled (config : LintConfig) (id : String) : Bool :=
  config.disabled.contains (ruleKey id) ||
    (!config.only.isEmpty && !config.only.contains (ruleKey id))

def severityOf (config : LintConfig) (id : String) (default : Severity) : Severity :=
  (config.severities.lookup (ruleKey id)).getD default

def optionsOf (config : LintConfig) (id : String) : Option Settings :=
  (config.options.lookup (ruleKey id)).join

def sortIds (ids : List String) : List String := ids.mergeSort

end LintConfig

end QueryLint
