import QueryLint.Dialect.Basic
import QueryLint.Lint.Diagnostic
import QueryLint.Token.Basic

/-!
Comments that suppress diagnostics. A comment whose body begins with `noqa` suppresses what is
reported on the line where it starts: everything, or only the rules listed after a colon. That a
source could not be parsed is always reported.
-/

namespace QueryLint

/-- The rule of diagnostics about sources that could not be parsed. -/
def parseRuleId : String := "parse"

structure Suppression where
  line : Int
  /-- The rules in upper case; all rules if there is no list. -/
  rules : Option (List String)
deriving DecidableEq, Repr, Inhabited

namespace Suppression

def parseIds (list : String) : List String :=
  (((Text.splitOn ',' list).map Text.trim).filter (!·.isEmpty)).map Text.upper

/-- What a comment body suppresses, if it asks for that. -/
def rulesOf? (body : String) : Option (Option (List String)) :=
  if Text.startsWith "noqa" (Text.lower body) then
    let rest := Text.trim (String.ofList (body.toList.drop 4))
    some ((Text.afterStart? ":" rest).map parseIds)
  else none

def ofComment? (comment : Comment) : Option Suppression :=
  (rulesOf? comment.body).map fun rules => ⟨comment.span.start.line, rules⟩

end Suppression

/-- What is suppressed on each line: the listed rules, or all rules. -/
structure SuppressionTable where
  lines : List (Int × Option (List String)) := []
deriving DecidableEq, Repr, Inhabited

namespace SuppressionTable

/-- Adds what one comment suppresses. The lists of a line add up; where everything is suppressed, a
list changes nothing. -/
def add (table : SuppressionTable) (suppression : Suppression) : SuppressionTable :=
  let put (rules : Option (List String)) : SuppressionTable :=
    ⟨setKey suppression.line rules table.lines⟩
  match suppression.rules, table.lines.lookup suppression.line with
  | none, _ => put none
  | some _, some none => table
  | some ids, some (some listed) => put (some (listed ++ ids))
  | some ids, none => put (some ids)

def ofComments (comments : List Comment) : SuppressionTable :=
  (comments.filterMap Suppression.ofComment?).foldl add {}

def covers (table : SuppressionTable) (diagnostic : Diagnostic) : Bool :=
  match table.lines.lookup diagnostic.line with
  | none => false
  | some rules => rules.all (·.contains (Text.upper diagnostic.rule))

end SuppressionTable

def Suppression.keep (comments : List Comment) (diagnostics : List Diagnostic) : List Diagnostic :=
  let table := SuppressionTable.ofComments comments
  diagnostics.filter fun diagnostic =>
    diagnostic.rule == parseRuleId || !table.covers diagnostic

end QueryLint
