import QueryLint.Lint.Catalog
import QueryLint.Lint.Config

/-!
Running the rules on a statement.
-/

namespace QueryLint

/-- Who analyses: a configuration and, unless it is empty, the dialect that selects the rules. -/
structure Analyzer where
  config : LintConfig := {}
  dialect : String := ""
deriving Inhabited

namespace Analyzer

/-- The dialect that selects the rules: the analyzer's own one, or else that of the statement. -/
def dialectName (analyzer : Analyzer) (dialect : Option Dialect) : String :=
  if analyzer.dialect.isEmpty then (dialect.map (·.name)).getD "" else analyzer.dialect

def rules (analyzer : Analyzer) (dialect : Option Dialect) : List Rule :=
  let name := analyzer.dialectName dialect
  (if name.isEmpty then Rule.all else Rule.forDialect name).filter fun rule =>
    !analyzer.config.isDisabled rule.id

def runRule (config : LintConfig) (query : Query) (dialect : Option Dialect) (rule : Rule) :
    List Diagnostic :=
  (rule.check query dialect ((config.optionsOf rule.id).getD [])).map
    (rule.report (config.severityOf rule.id rule.severity))

def analyze (analyzer : Analyzer) (query : Query) (dialect : Option Dialect) : List Diagnostic :=
  Diagnostic.sort
    ((analyzer.rules dialect).flatMap (runRule analyzer.config query dialect))

end Analyzer

end QueryLint
