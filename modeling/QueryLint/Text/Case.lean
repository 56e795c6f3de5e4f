import QueryLint.Text.CaseTable

/-!
Letter case. `upper` and `lower` map character by character and never change the number of
characters; `fold` is the full folding that makes names comparable without regard to case, and
`sameIgnoringCase` compares texts whose characters differ at most in case.
-/

namespace QueryLint.Text

def upperChar (c : Char) : Char :=
  if c.toNat < 0x80 then c.toUpper else Char.ofNat (CaseRun.apply upperRuns c.toNat)

def lowerChar (c : Char) : Char :=
  if c.toNat < 0x80 then c.toLower else Char.ofNat (CaseRun.apply lowerRuns c.toNat)

def upper (text : String) : String := String.ofList (text.toList.map upperChar)

def lower (text : String) : String := String.ofList (text.toList.map lowerChar)

def foldChar (c : Char) : List Char :=
  if c.toNat < 0x80 then [c.toLower]
  else match foldExpansions.lookup c.toNat with
    | some expansion => expansion.map Char.ofNat
    | none => [Char.ofNat (CaseRun.apply foldRuns c.toNat)]

/-- The form under which two spellings of a name are the same name. -/
def fold (name : String) : String := String.ofList (name.toList.flatMap foldChar)

def sameName (a b : String) : Bool := fold a == fold b

/-- The folding of one character to one character; expansions stay as they are. -/
def foldCharSimple (c : Char) : Char :=
  if c.toNat < 0x80 then c.toLower
  else if (foldExpansions.lookup c.toNat).isSome then c
  else Char.ofNat (CaseRun.apply foldRuns c.toNat)

/-- Whether two texts agree character by character up to letter case. -/
def sameIgnoringCase (a b : String) : Bool :=
  a.toList.map foldCharSimple == b.toList.map foldCharSimple

end QueryLint.Text
