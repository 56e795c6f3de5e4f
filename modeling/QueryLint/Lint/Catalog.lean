import QueryLint.Lint.Rules.CurrentDate
import QueryLint.Lint.Rules.Grouping
import QueryLint.Lint.Rules.Ordering
import QueryLint.Lint.Rules.TableSuffix
import QueryLint.Lint.Rules.UnusedColumn

/-!
The rules that there are.
-/

namespace QueryLint.Rule

def all : List Rule :=
  [Grouping.rule, CurrentDate.rule, TableSuffix.rule, UnusedColumn.rule, Ordering.rule]

def find? (id : String) : Option Rule := all.find? (·.id == Text.upper id)

def inGroup (group : String) : List Rule := all.filter (·.group == group)

def forDialect (dialect : String) : List Rule := all.filter (·.appliesTo dialect)

end QueryLint.Rule
