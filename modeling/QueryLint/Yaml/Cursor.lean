/-!
Where the reading of a YAML text stands. Lines end with a line feed, a carriage return, both, or
one of three line ends beyond ASCII; two of those stay what they are in a text, and all others
become a line feed. Columns and lines are counted from zero.
-/

namespace QueryLint.Yaml

/-! ### Characters -/

def isSpace (c : Char) : Bool := c == ' ' || c == '\t'

def isSeparator (c : Char) : Bool := c == '\u2028' || c == '\u2029'

def isLineEnd (c : Char) : Bool := c == '\n' || c == '\r' || c == '\u0085' || isSeparator c

def isNameChar (c : Char) : Bool := c.isAlphanum || c == '_' || c == '-'

def isAllowed (c : Char) : Bool :=
  let n := c.toNat
  n == 0x09 || n == 0x0A || n == 0x0D || (0x20 ≤ n && n ≤ 0x7E) || n == 0x85 ||
    (0xA0 ≤ n && n != 0xFFFE && n != 0xFFFF)

/-! ### What comes next -/

def startsSpace (cs : List Char) : Bool := cs.head?.any isSpace

def startsLineEnd (cs : List Char) : Bool := cs.head?.any isLineEnd

def endsLine (cs : List Char) : Bool := cs.head?.all isLineEnd

def startsBlank (cs : List Char) : Bool := cs.head?.all fun c => isSpace c || isLineEnd c

/-- The line end that comes next, as a text has it, and its length. -/
def lineEnd? : List Char → Option (Char × Nat)
  | '\r' :: '\n' :: _ => some ('\n', 2)
  | c :: _ => if isSeparator c then some (c, 1) else if isLineEnd c then some ('\n', 1) else none
  | [] => none

/-- Splits a text at the first place where `stops` holds of what comes next. -/
def splitWhere (stops : List Char → Bool) : List Char → List Char × List Char
  | [] => ([], [])
  | c :: rest =>
    if stops (c :: rest) then ([], c :: rest)
    else
      let (before, after) := splitWhere stops rest
      (c :: before, after)

/-! ### Cursors -/

structure Place where
  line : Nat := 0
  column : Nat := 0
  /-- How many characters come after it. -/
  left : Nat
deriving DecidableEq, Repr

structure Cursor where
  rest : List Char
  place : Place
  /-- How many lines have ended since the last character that is no blank. -/
  lineEnds : Nat := 0

namespace Cursor

def start (text : List Char) : Cursor := { rest := text, place := { left := text.length } }

def column (cursor : Cursor) : Nat := cursor.place.column

def atEnd (cursor : Cursor) : Bool := cursor.rest.isEmpty

def sees (cursor : Cursor) (c : Char) : Bool := cursor.rest.head? == some c

def pass (cursor : Cursor) (read rest : List Char) : Cursor :=
  { rest
    place := { cursor.place with
      column := cursor.place.column + read.length, left := cursor.place.left - read.length }
    lineEnds := if read.all isSpace then cursor.lineEnds else 0 }

def skip (cursor : Cursor) (count : Nat) : Cursor :=
  cursor.pass (cursor.rest.take count) (cursor.rest.drop count)

def readUntil (stops : List Char → Bool) (cursor : Cursor) : List Char × Cursor :=
  let (before, after) := splitWhere stops cursor.rest
  (before, cursor.pass before after)

def skipSpaces (cursor : Cursor) : Cursor := (cursor.readUntil fun cs => !startsSpace cs).2

def skipLine (cursor : Cursor) : Cursor := (cursor.readUntil endsLine).2

def readLineEnd (cursor : Cursor) : List Char × Cursor :=
  match lineEnd? cursor.rest with
  | none => ([], cursor)
  | some (c, length) =>
    ([c], {
      rest := cursor.rest.drop length
      place := { line := cursor.place.line + 1, column := 0, left := cursor.place.left - length }
      lineEnds := cursor.lineEnds + 1 })

def skipLineEnd (cursor : Cursor) : Cursor := cursor.readLineEnd.2

/-- Whether a line begins here that separates documents: three times the mark, and a blank. -/
def seesMarker (mark : Char) (cursor : Cursor) : Bool :=
  match cursor.rest with
  | a :: b :: c :: rest =>
    cursor.column == 0 && a == mark && b == mark && c == mark && startsBlank rest
  | _ => false

def atMarker (cursor : Cursor) : Bool := cursor.seesMarker '-' || cursor.seesMarker '.'

end Cursor

end QueryLint.Yaml
