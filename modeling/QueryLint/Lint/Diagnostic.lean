import QueryLint.Lint.Severity
import QueryLint.Source.Position

/-!
Diagnostics: what is reported about a source. They are ordered by their place and then by the rule
that made them; their severity plays no part in the order.
-/

namespace QueryLint

inductive Impact where
  | low
  | medium
  | high
  | critical
deriving DecidableEq, Repr, Inhabited

def Impact.score : Impact → Int
  | .low => 20
  | .medium => 50
  | .high => 70
  | .critical => 90

/-- A reported finding. A `span` without an end names a place only; a finding without a rule of
its own has no documentation and no impact. -/
structure Diagnostic where
  rule : String
  severity : Severity
  message : String
  span : Span := {}
  documentation : String := ""
  impact : Int := 0
deriving DecidableEq, Repr, Inhabited

namespace Diagnostic

def line (diagnostic : Diagnostic) : Int := diagnostic.span.start.line

def column (diagnostic : Diagnostic) : Int := diagnostic.span.start.column

def compare (a b : Diagnostic) : Ordering :=
  (Ord.compare a.line b.line).then
    ((Ord.compare a.column b.column).then (Ord.compare a.rule b.rule))

def le (a b : Diagnostic) : Bool := (compare a b).isLE

/-- Diagnostics in order; those with equal place and rule keep their order. -/
def sort (diagnostics : List Diagnostic) : List Diagnostic := diagnostics.mergeSort le

end Diagnostic

end QueryLint
