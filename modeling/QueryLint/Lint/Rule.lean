import QueryLint.Dialect.Basic
import QueryLint.Lint.Diagnostic
import QueryLint.Setting.Basic
import QueryLint.Syntax.Tree

/-!
Rules. A rule finds places in a query and says what is wrong there; its identifier, its severity
and its documentation are added to all of its findings alike.
-/

namespace QueryLint

structure Finding where
  message : String
  span : Span
deriving DecidableEq, Repr, Inhabited

structure Rule where
  id : String
  name : String
  group : String
  description : String
  severity : Severity
  impact : Impact
  /-- The options that the rule accepts. -/
  configKeys : List String := []
  /-- The dialects that the rule is for; all if there is none. -/
  dialects : List String := []
  rationale : String
  badExample : String
  goodExample : String
  fix : String
  check : Query → Option Dialect → Settings → List Finding

namespace Rule

def documentationOf (id : String) : String :=
  "https://github.com/leapstack-labs/bqlint/blob/main/docs/rules/" ++ Text.lower id ++ ".md"

def appliesTo (rule : Rule) (dialect : String) : Bool :=
  rule.dialects.isEmpty || rule.dialects.contains dialect

def report (rule : Rule) (severity : Severity) (finding : Finding) : Diagnostic where
  rule := rule.id
  severity := severity
  message := finding.message
  span := finding.span
  documentation := documentationOf rule.id
  impact := rule.impact.score

end Rule

end QueryLint
