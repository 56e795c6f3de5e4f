import QueryLint.Text.Blank

/-!
Paths as texts: steps between slashes, where an empty step and `.` stay in place and `..` goes up.
These functions look at the text alone and not at the files.
-/

namespace QueryLint.Path

def steps (path : String) : List String := Text.splitOn '/' path

def isAbsolute (path : String) : Bool := Text.startsWith "/" path

def isIdle (step : String) : Bool := step.isEmpty || step == "."

/-- Takes one step more from the steps taken so far, latest first. Above the root is the root;
above the start of a relative path is `..`. -/
def advance (rooted : Bool) (taken : List String) (step : String) : List String :=
  if isIdle step then taken
  else if step == ".." then
    match taken with
    | [] => if rooted then [] else [".."]
    | last :: before => if last == ".." then ".." :: taken else before
  else step :: taken

/-- The steps that remain when each `..` cancels the step before it. -/
def simplify (path : String) : List String :=
  ((steps path).foldl (advance (isAbsolute path)) []).reverse

/-- The shortest path with the same meaning; nothing is `.`. -/
def clean (path : String) : String :=
  let text := "/".intercalate (simplify path)
  if isAbsolute path then "/" ++ text
  else if text.isEmpty then "."
  else text

def join (base path : String) : String :=
  match base.isEmpty, path.isEmpty with
  | true, true => ""
  | true, false => clean path
  | false, true => clean base
  | false, false => clean (base ++ "/" ++ path)

def absolute (directory path : String) : String :=
  if isAbsolute path then clean path else join directory path

def parent (path : String) : String :=
  clean (String.ofList (path.toList.reverse.dropWhile (· != '/')).reverse)

def lastStep (path : String) : String := (steps path).getLast?.getD ""

/-- The end of a name from its last dot on; empty without a dot. -/
def extension (path : String) : String :=
  let name := (lastStep path).toList.reverse
  if name.contains '.' then String.ofList ('.' :: (name.takeWhile (· != '.')).reverse) else ""

/-- The directories above and including an absolute directory, nearest first. -/
def ancestors : Nat → String → List String
  | 0, _ => []
  | levels + 1, directory =>
    let above := parent directory
    if above == directory then [directory] else directory :: ancestors levels above

end QueryLint.Path
