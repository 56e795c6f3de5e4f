import QueryLint.Number.Integer
import QueryLint.Yaml.Cursor

/-!
Texts of YAML documents that are written as words, plain or between quotes. A text that goes over
several lines is folded: one line end between its words is a space, and of more than one all but
the first stay. Blanks around line ends are dropped.
-/

namespace QueryLint.Yaml

/-! ### Between words -/

structure Gap where
  /-- The blanks, unless there is a line end. -/
  blanks : List Char := []
  broken : Bool := false
  /-- The first line end. -/
  first : List Char := []
  further : List Char := []

namespace Gap

def text (gap : Gap) : List Char :=
  if !gap.broken then gap.blanks
  else if gap.first != ['\n'] then gap.first ++ gap.further
  else if gap.further.isEmpty then [' ']
  else gap.further

def addLineEnd (gap : Gap) (lineEnd : List Char) : Gap :=
  if gap.broken then { gap with further := gap.further ++ lineEnd }
  else { broken := true, first := lineEnd }

/-- Reads blanks and line ends. No tab may stand where a line is indented less than `least`. -/
def read? (least : Nat) : Nat → Gap → Cursor → Option (Gap × Cursor)
  | 0, gap, cursor => some (gap, cursor)
  | fuel + 1, gap, cursor =>
    if startsSpace cursor.rest then
      if gap.broken && cursor.column < least && cursor.sees '\t' then none
      else if gap.broken then read? least fuel gap (cursor.skip 1)
      else read? least fuel { gap with blanks := gap.blanks ++ cursor.rest.take 1 } (cursor.skip 1)
    else if startsLineEnd cursor.rest then
      let (lineEnd, next) := cursor.readLineEnd
      read? least fuel (gap.addLineEnd lineEnd) next
    else some (gap, cursor)

end Gap

/-! ### Plain texts -/

def isFlowMark (c : Char) : Bool := [',', '?', '[', ']', '\x7b', '\x7d'].contains c

def endsPlainWord (inFlow : Bool) (cs : List Char) : Bool :=
  match cs with
  | [] => true
  | c :: rest =>
    isSpace c || isLineEnd c || (c == ':' && startsBlank rest) || (inFlow && isFlowMark c)

structure Reading where
  text : String
  /-- Whether lines have ended after its last word. -/
  broken : Bool := false
  after : Cursor

/-- Reads a plain text on; `text` is what has been read of it, in reverse. -/
def plainWords? (inFlow : Bool) (least : Nat) :
    Nat → Gap → List Char → Cursor → Option Reading
  | 0, _, _, _ => none
  | fuel + 1, gap, text, cursor =>
    let ended (gap : Gap) (text : List Char) (after : Cursor) : Reading :=
      ⟨String.ofList text.reverse, gap.broken, after⟩
    if cursor.atMarker || cursor.sees '#' then some (ended gap text cursor)
    else
      let (word, after) := cursor.readUntil (endsPlainWord inFlow)
      let text := if word.isEmpty then text else word.reverse ++ gap.text.reverse ++ text
      let gap := if word.isEmpty then gap else {}
      if after.atEnd || !startsBlank after.rest then some (ended gap text after)
      else do
        let (gap, next) ← gap.read? least after.place.left after
        if !inFlow && next.column < least then return ended gap text next
        else plainWords? inFlow least fuel gap text next

/-- A plain text, whose lines are indented by `least` at least unless it stands between
brackets. -/
def plainText? (inFlow : Bool) (least : Nat) (cursor : Cursor) : Option Reading :=
  plainWords? inFlow least (cursor.place.left + 1) {} [] cursor

/-! ### Quoted texts -/

def escapes : List (Char × Char) :=
  [('0', '\x00'), ('a', '\x07'), ('b', '\x08'), ('t', '\t'), ('\t', '\t'), ('n', '\n'),
    ('v', '\x0b'), ('f', '\x0c'), ('r', '\r'), ('e', '\x1b'), (' ', ' '), ('"', '"'),
    ('\'', '\''), ('\\', '\\'), ('N', '\u0085'), ('_', '\u00a0'), ('L', '\u2028'),
    ('P', '\u2029')]

/-- The letters after which a number of hexadecimal digits name a character. -/
def numericEscapes : List (Char × Nat) := [('x', 2), ('u', 4), ('U', 8)]

def hexDigit? (c : Char) : Option Nat := (Number.digitValue? c).filter (· < 16)

def escape? : List Char → Option (Char × Nat)
  | [] => none
  | c :: rest =>
    match escapes.lookup c, numericEscapes.lookup c with
    | some meant, _ => some (meant, 1)
    | none, none => none
    | none, some count => do
      let digits ← (rest.take count).mapM hexDigit?
      let value := digits.foldl (fun value digit => value * 16 + digit) 0
      if digits.length = count && value.isValidChar then some (Char.ofNat value, count + 1)
      else none

/-- Reads a word between quotes on. True is a backslash at the end of a line, after which the next
line begins. -/
def quotedWord? (quote : Char) : Nat → List Char → Cursor → Option (List Char × Bool × Cursor)
  | 0, text, cursor => some (text, false, cursor)
  | fuel + 1, text, cursor =>
    match cursor.rest with
    | [] => some (text, false, cursor)
    | c :: rest =>
      if isSpace c || isLineEnd c then some (text, false, cursor)
      else if c = quote then
        if quote = '\'' && rest.head? = some quote then
          quotedWord? quote fuel (quote :: text) (cursor.skip 2)
        else some (text, false, cursor)
      else if c = '\\' && quote = '"' then
        if startsLineEnd rest then some (text, true, (cursor.skip 1).skipLineEnd)
        else do
          let (meant, length) ← escape? rest
          quotedWord? quote fuel (meant :: text) (cursor.skip (length + 1))
      else quotedWord? quote fuel (c :: text) (cursor.skip 1)

/-- Reads a text between quotes on; no document ends inside it. -/
def quotedWords? (quote : Char) : Nat → List Char → Cursor → Option Reading
  | 0, _, _ => none
  | fuel + 1, text, cursor =>
    if cursor.atMarker || cursor.atEnd then none
    else do
      let (text, broken, after) ← quotedWord? quote cursor.place.left text cursor
      if after.sees quote then
        return { text := String.ofList text.reverse, after := after.skip 1 }
      let (gap, next) ← Gap.read? 0 after.place.left { broken } after
      quotedWords? quote fuel (gap.text.reverse ++ text) next

/-- A text between quotes; the cursor is at the first one. In single quotes two quotes are one. -/
def quotedText? (quote : Char) (cursor : Cursor) : Option Reading :=
  quotedWords? quote (cursor.place.left + 1) [] (cursor.skip 1)

end QueryLint.Yaml
