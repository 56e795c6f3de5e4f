import QueryLint.Lint.Analysis
import QueryLint.Lint.Suppression
import QueryLint.Parser.Script

/-!
Linting a source. What cannot be parsed is reported as one diagnostic; the statements that were
read are analysed in any case.
-/

namespace QueryLint

structure FileReport where
  path : String
  diagnostics : List Diagnostic
deriving DecidableEq, Repr, Inhabited

/-- An error as a diagnostic. Malformed special forms have no place of their own. -/
def SyntaxError.diagnostic (error : SyntaxError) : Diagnostic :=
  let located (what : String) (position : Position) (message : String) : Diagnostic :=
    { rule := parseRuleId, severity := .error, message := what ++ message,
      span := { start := position } }
  match error.root with
  | .lexical cause => located "lexer error: " cause.position cause.fault.message
  | .syntactic position fault => located "parse error: " position fault.message
  | _ => located "" {} error.message

structure Linter where
  analyzer : Analyzer
  dialect : Dialect

namespace Linter

def ofConfig (config : LintConfig) (dialect : Dialect) : Linter :=
  ⟨⟨config, dialect.name⟩, dialect⟩

def lintScript (linter : Linter) (script : Script) (error : Option SyntaxError) :
    List Diagnostic :=
  let found := script.statements.flatMap (linter.analyzer.analyze · (some linter.dialect))
  Diagnostic.sort (Suppression.keep script.comments
    (error.toList.map SyntaxError.diagnostic ++ found))

def lint (linter : Linter) (source : Text.Bytes) : List Diagnostic :=
  match Script.parse linter.dialect source with
  | .accepted script recovered => linter.lintScript script recovered
  | .rejected error => [error.diagnostic]
  | .exhausted => []

def syntaxError? (linter : Linter) (source : Text.Bytes) : Option SyntaxError :=
  match Script.parse linter.dialect source with
  | .accepted _ recovered => recovered
  | .rejected error => some error
  | .exhausted => none

def lintFile (linter : Linter) (path : String) (source : Text.Bytes) : FileReport :=
  ⟨path, linter.lint source⟩

end Linter

end QueryLint
