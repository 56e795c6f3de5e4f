import QueryLint.Text.Case
import QueryLint.Text.Quoted

/-!
How grave a finding is.
-/

namespace QueryLint

/-- The rank of a finding; the smaller rank is the graver one. Four ranks have names, and records
from outside can carry others. -/
structure Severity where
  rank : Int
deriving DecidableEq, Repr, Inhabited

namespace Severity

def error : Severity := ⟨0⟩
def warning : Severity := ⟨1⟩
def info : Severity := ⟨2⟩
def hint : Severity := ⟨3⟩

def named : List (Severity × String) :=
  [(error, "error"), (warning, "warning"), (info, "info"), (hint, "hint")]

def name (severity : Severity) : String := (named.lookup severity).getD "unknown"

def ofName? (name : String) : Option Severity :=
  (named.find? fun entry => entry.2 == Text.lower name).map (·.1)

def unknownMessage (name : String) : String := "unknown severity " ++ Text.quoted name

def reaches (severity threshold : Severity) : Bool := severity.rank ≤ threshold.rank

end Severity

end QueryLint
