import QueryLint.Yaml.Words

/-!
Texts of YAML documents that are written as indented lines. The first line that is not empty tells
how far the lines are indented, unless a digit does. The lines of a folded text are joined by
spaces, where neither of them begins with a blank.
-/

namespace QueryLint.Yaml

inductive Chomping where
  | strip
  | clip
  | keep
deriving DecidableEq, Repr

structure LinesStyle where
  chomping : Chomping
  /-- How far it is indented, if that is told. -/
  indentation : Option Nat

def readChomping (cursor : Cursor) : Option Chomping × Cursor :=
  if cursor.sees '+' then (some .keep, cursor.skip 1)
  else if cursor.sees '-' then (some .strip, cursor.skip 1)
  else (none, cursor)

def readIndentation? (cursor : Cursor) : Option (Option Nat × Cursor) :=
  match cursor.rest.head? with
  | some c =>
    if c = '0' then none
    else if c.isDigit then some (some (c.toNat - 0x30), cursor.skip 1)
    else some (none, cursor)
  | none => some (none, cursor)

def linesStyle? (cursor : Cursor) : Option (LinesStyle × Cursor) := do
  let (before, cursor) := readChomping cursor
  let (indentation, cursor) ← readIndentation? cursor
  let (after, cursor) :=
    if before.isNone && indentation.isSome then readChomping cursor else (none, cursor)
  let cursor := cursor.skipSpaces
  let cursor := if cursor.sees '#' then cursor.skipLine else cursor
  if endsLine cursor.rest then
    return (⟨(before.or after).getD .clip, indentation⟩, cursor.skipLineEnd)
  else failure

/-- Whether an indentation of `width`, or of any width, reaches beyond the cursor. -/
def indents (width : Option Nat) (cursor : Cursor) : Bool := width.all (cursor.column < ·)

def skipIndentation (width : Option Nat) (cursor : Cursor) : Cursor :=
  let spaces := (cursor.rest.takeWhile (· == ' ')).length
  cursor.skip (match width with
    | none => spaces
    | some width => min spaces (width - cursor.column))

structure EmptyLines where
  lineEnds : List Char := []
  /-- The greatest column up to which one of them, or the line after them, is indented. -/
  deepest : Nat := 0

/-- Reads empty lines and the indentation of the line after them, in which no tab may stand. -/
def emptyLines? (width : Option Nat) : Nat → EmptyLines → Cursor → Option (EmptyLines × Cursor)
  | 0, _, _ => none
  | fuel + 1, lines, cursor =>
    let inside := skipIndentation width cursor
    let lines := { lines with deepest := max lines.deepest inside.column }
    if indents width inside && inside.sees '\t' then none
    else if startsLineEnd inside.rest then
      let (lineEnd, next) := inside.readLineEnd
      emptyLines? width fuel { lines with lineEnds := lines.lineEnds ++ lineEnd } next
    else some (lines, inside)

structure LinesText where
  /-- The lines, in reverse. -/
  text : List Char := []
  /-- Whether the last line begins with a blank. -/
  indented : Bool := false
  /-- How the last line ends. -/
  lineEnd : List Char := []
  /-- How the empty lines after it end. -/
  further : List Char

namespace LinesText

def add (lines : LinesText) (folded : Bool) (line lineEnd further : List Char) : LinesText :=
  let indented := startsSpace line
  let between :=
    if folded && !lines.indented && !indented && lines.lineEnd == ['\n'] then
      if lines.further.isEmpty then [' '] else []
    else lines.lineEnd
  { text := line.reverse ++ lines.further.reverse ++ between.reverse ++ lines.text
    indented, lineEnd, further }

def result (lines : LinesText) (chomping : Chomping) : String :=
  let ending := match chomping with
    | .strip => []
    | .clip => lines.lineEnd
    | .keep => lines.lineEnd ++ lines.further
  String.ofList (lines.text.reverse ++ ending)

def read? (folded : Bool) (width : Nat) : Nat → LinesText → Cursor → Option (LinesText × Cursor)
  | 0, lines, cursor => some (lines, cursor)
  | fuel + 1, lines, cursor =>
    if cursor.column != width || cursor.atEnd then some (lines, cursor)
    else do
      let (line, after) := cursor.readUntil endsLine
      let (lineEnd, next) := after.readLineEnd
      let (empty, next) ← emptyLines? (some width) (next.place.left + 1) {} next
      read? folded width fuel (lines.add folded line lineEnd empty.lineEnds) next

end LinesText

/-- A text of lines inside of something that asks for an indentation of `least`; the cursor is at
the bar or the angle before it. -/
def linesText? (folded : Bool) (least : Nat) (cursor : Cursor) : Option Reading := do
  let (style, start) ← linesStyle? (cursor.skip 1)
  let given := style.indentation.map (least - 1 + ·)
  let (empty, first) ← emptyLines? given (start.place.left + 1) {} start
  let width := given.getD (max empty.deepest (max least 1))
  let (lines, after) ←
    LinesText.read? folded width (first.place.left + 1) { further := empty.lineEnds } first
  return { text := lines.result style.chomping, after }

end QueryLint.Yaml
