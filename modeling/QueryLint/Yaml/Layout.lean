import QueryLint.Yaml.Lines
import QueryLint.Yaml.Tag

/-!
The tokens of a YAML text. Blocks begin where a dash or a key stands further to the right than
before, and end where a line begins further to the left. That something is a key shows only at the
colon after it, so its token and the beginning of its block are put in afterwards; the colon stands
in the line of the key, at most 1024 characters after its beginning. Between brackets columns have
no meaning.
-/

namespace QueryLint.Yaml

structure OpenKey where
  /-- Whether nothing else can stand there. -/
  required : Bool
  /-- How many tokens come before it. -/
  token : Nat
  place : Place

def OpenKey.reaches (key : OpenKey) (cursor : Cursor) : Bool :=
  key.place.line == cursor.place.line && key.place.left ≤ cursor.place.left + 1024

structure Layout where
  cursor : Cursor
  /-- The tokens, in reverse. -/
  tokens : List Token := []
  count : Nat := 0
  /-- The columns of the blocks that are open, the innermost first. -/
  columns : List Nat := []
  /-- What may be a key, for the brackets that are open, the innermost first. -/
  outer : List (Option OpenKey) := []
  /-- What may be a key inside of the innermost brackets. -/
  key : Option OpenKey := none
  keyAllowed : Bool := true
  /-- Whether the first character of each line is passed over. -/
  marked : Bool := false

namespace Layout

def inFlow (layout : Layout) : Bool := !layout.outer.isEmpty

def column (layout : Layout) : Nat := layout.cursor.column

def maxDepth : Nat := 10000

def least (layout : Layout) : Nat := (layout.columns.head?.map (· + 1)).getD 0

def push (layout : Layout) (token : Token) : Layout :=
  { layout with tokens := token :: layout.tokens, count := layout.count + 1 }

def pushAt (layout : Layout) (token : Token) (after : Cursor) : Layout :=
  { layout.push token with cursor := after }

/-! ### Blocks -/

def endBlocks (ends : Nat → Bool) (layout : Layout) : Layout :=
  if layout.inFlow then layout
  else
    let count := (layout.columns.takeWhile ends).length
    { layout with
      tokens := List.replicate count .blockEnd ++ layout.tokens
      count := layout.count + count
      columns := layout.columns.drop count }

def beginsBlock (layout : Layout) (column : Nat) : Bool :=
  !layout.inFlow && layout.columns.head?.all (· < column)

/-- Opens a block in a column, if one begins there, with its token put in before the last `behind`
tokens. -/
def beginBlock? (layout : Layout) (column behind : Nat) (token : Token) : Option Layout :=
  if !layout.beginsBlock column then some layout
  else if maxDepth ≤ layout.columns.length then none
  else some { layout with
    tokens := layout.tokens.take behind ++ token :: layout.tokens.drop behind
    count := layout.count + 1
    columns := column :: layout.columns }

/-! ### Keys -/

/-- Gives up what may be a key; that fails if it has to be one. -/
def dropKey? (layout : Layout) : Option Layout :=
  if layout.key.any (·.required) then none else some { layout with key := none }

def noteKey? (layout : Layout) : Option Layout :=
  if !layout.keyAllowed then some layout
  else layout.dropKey?.map fun layout => { layout with
    key := some {
      required := !layout.inFlow && layout.columns.head? == some layout.column
      token := layout.count
      place := layout.cursor.place } }

/-! ### To the next token -/

def skipBlankLines : Nat → Cursor → Cursor
  | 0, cursor => cursor
  | fuel + 1, cursor =>
    if startsSpace cursor.rest then skipBlankLines fuel (cursor.skip 1)
    else if startsLineEnd cursor.rest then skipBlankLines fuel cursor.skipLineEnd
    else cursor

def commentFollows (cs : List Char) : Bool :=
  let isBlank (c : Char) : Bool := isSpace c || c == '\n' || c == '\r'
  cs.head?.any isBlank && (cs.dropWhile isBlank).head? == some '#'

def skipComments : Nat → Cursor → Cursor
  | 0, cursor => cursor
  | fuel + 1, cursor =>
    let after := cursor.skipLine
    if commentFollows after.rest then skipComments fuel (skipBlankLines after.place.left after)
    else after

/-- Goes over blanks, comments and line ends. Tabs do not indent a line in which a key may
begin. -/
def skipGap : Nat → Layout → Layout
  | 0, layout => layout
  | fuel + 1, layout =>
    let cursor := if layout.column == 0 && layout.marked then layout.cursor.skip 1
      else layout.cursor
    let tabs := layout.inFlow || !layout.keyAllowed
    let cursor := (cursor.readUntil fun cs =>
      !cs.head?.any fun c => c == ' ' || (tabs && c == '\t')).2
    let cursor := if cursor.sees '#' then skipComments cursor.place.left cursor else cursor
    if startsLineEnd cursor.rest then
      skipGap fuel { layout with
        cursor := cursor.skipLineEnd, keyAllowed := layout.keyAllowed || !layout.inFlow }
    else { layout with cursor }

def skipLineComment (layout : Layout) : Layout :=
  let next := layout.cursor.skipSpaces
  if layout.cursor.lineEnds == 0 && layout.tokens.head? != some .item && next.sees '#' then
    { layout with cursor := next.skipLine }
  else layout

/-! ### Tokens -/

def openBracket? (layout : Layout) (token : Token) : Option Layout := do
  let layout ← layout.noteKey?
  if maxDepth ≤ layout.outer.length then failure
  return { layout.pushAt token (layout.cursor.skip 1) with
    outer := layout.key :: layout.outer, key := none, keyAllowed := true }

def closeBracket? (layout : Layout) (token : Token) : Option Layout := do
  let layout ← layout.dropKey?
  let layout := layout.pushAt token (layout.cursor.skip 1)
  return match layout.outer with
    | [] => { layout with keyAllowed := false }
    | key :: outer => { layout with outer, key, keyAllowed := false }

def comma? (layout : Layout) : Option Layout := do
  let layout ← layout.dropKey?
  return { layout.pushAt .comma (layout.cursor.skip 1) with keyAllowed := true }

def item? (layout : Layout) : Option Layout := do
  if !layout.inFlow && !layout.keyAllowed then failure
  let layout ← layout.beginBlock? layout.column 0 .sequenceBlock
  let layout ← layout.dropKey?
  return { layout.pushAt .item (layout.cursor.skip 1) with keyAllowed := true }

def key? (layout : Layout) : Option Layout := do
  if !layout.inFlow && !layout.keyAllowed then failure
  let layout ← layout.beginBlock? layout.column 0 .mappingBlock
  let layout ← layout.dropKey?
  return { layout.pushAt .key (layout.cursor.skip 1) with keyAllowed := !layout.inFlow }

def valueOfKey? (layout : Layout) (key : OpenKey) : Option Layout := do
  let behind := layout.count - key.token
  let tokens := layout.tokens.take behind ++ .key :: layout.tokens.drop behind
  let layout := { layout with tokens, count := layout.count + 1, key := none, keyAllowed := false }
  let layout ← layout.beginBlock? key.place.column (behind + 1) .mappingBlock
  return layout.pushAt .value (layout.cursor.skip 1)

def valueAlone? (layout : Layout) : Option Layout := do
  if !layout.inFlow && !layout.keyAllowed then failure
  let layout ← layout.beginBlock? layout.column 0 .mappingBlock
  return { layout.pushAt .value (layout.cursor.skip 1) with keyAllowed := !layout.inFlow }

def value? (layout : Layout) : Option Layout :=
  match layout.key with
  | none => layout.valueAlone?
  | some key =>
    if key.reaches layout.cursor then layout.valueOfKey? key
    else if key.required then none
    else { layout with key := none }.valueAlone?

/-- A token with which a key may begin and after which none begins in the line. -/
def atom? (layout : Layout) (read : Cursor → Option (Token × Cursor)) : Option Layout := do
  let layout ← layout.noteKey?
  let (token, after) ← read layout.cursor
  return { layout.pushAt token after with keyAllowed := false }

def quoted? (layout : Layout) (quote : Char) : Option Layout :=
  layout.atom? fun cursor =>
    (quotedText? quote cursor).map fun found => (.scalar found.text false, found.after)

def lines? (layout : Layout) (folded : Bool) : Option Layout := do
  let layout ← layout.dropKey?
  let found ← linesText? folded layout.least layout.cursor
  return { layout.pushAt (.scalar found.text false) found.after with keyAllowed := true }

/-- A plain text; after one that ends with a line a key may begin. -/
def plain? (layout : Layout) : Option Layout := do
  let layout ← layout.noteKey?
  let found ← plainText? layout.inFlow layout.least layout.cursor
  return { layout.pushAt (.scalar found.text true) found.after with keyAllowed := found.broken }

/-- The characters with which no plain text begins, unless it is told otherwise. -/
def isIndicator (c : Char) : Bool := "-?:,[]\x7b\x7d#&*!|>'\"%@\x60".toList.contains c

def startsPlain (inFlow : Bool) (c : Char) (rest : List Char) : Bool :=
  !(isSpace c || isLineEnd c || isIndicator c) || (c == '-' && !startsSpace rest) ||
    (!inFlow && (c == '?' || c == ':') && !startsBlank rest)

def token? (layout : Layout) (c : Char) (rest : List Char) : Option Layout :=
  let separates := layout.inFlow || startsBlank rest
  let named (token : String → Token) : Option Layout :=
    layout.atom? fun cursor => (markedName? cursor).map fun (name, after) => (token name, after)
  if c = '[' then layout.openBracket? .sequenceOpen
  else if c = '\x7b' then layout.openBracket? .mappingOpen
  else if c = ']' then layout.closeBracket? .sequenceClose
  else if c = '\x7d' then layout.closeBracket? .mappingClose
  else if c = ',' then layout.comma?
  else if c = '-' && startsBlank rest then layout.item?
  else if c = '?' && separates then layout.key?
  else if c = ':' && separates then layout.value?
  else if c = '*' then named .reference
  else if c = '&' then named .anchor
  else if c = '!' then layout.atom? tag?
  else if c = '|' && !layout.inFlow then layout.lines? false
  else if c = '>' && !layout.inFlow then layout.lines? true
  else if c = '\'' || c = '"' then layout.quoted? c
  else if startsPlain layout.inFlow c rest then layout.plain?
  else none

def outside? (layout : Layout) (token : Token) (after : Cursor) : Option Layout := do
  let layout ← (layout.endBlocks fun _ => true).dropKey?
  return { layout.pushAt token after with keyAllowed := false }

def next? (layout : Layout) : Option Layout :=
  let layout := skipGap (layout.cursor.place.left + 1) layout
  let layout := layout.endBlocks (layout.column < ·)
  let cursor := layout.cursor
  match cursor.rest with
  | [] => layout.outside? .streamEnd cursor
  | c :: rest =>
    if layout.column == 0 && c == '%' then do
      let (token, after) ← directive? cursor
      layout.outside? token after
    else if cursor.seesMarker '-' then layout.outside? .documentStart (cursor.skip 3)
    else if cursor.seesMarker '.' then layout.outside? .documentEnd (cursor.skip 3)
    else (layout.token? c rest).map skipLineComment

/-! ### Lists of tokens -/

/-- The tokens that can be used before the text is read further: all but the last two, and none
that may yet turn out to belong to a key. -/
def settled (layout : Layout) : List Token :=
  let keys := (layout.key :: layout.outer).filterMap fun key =>
    (key.filter (·.reaches layout.cursor)).map (·.token)
  layout.tokens.reverse.take (keys.foldl min (layout.count - 2))

def run : Nat → Layout → List Token
  | 0, layout => layout.settled
  | fuel + 1, layout =>
    match layout.next? with
    | none => layout.settled
    | some next =>
      if next.tokens.head? == some .streamEnd then next.tokens.reverse else run fuel next

/-- The layout before a text is read. One byte order mark before it is dropped; if there are two,
each line begins with one. -/
def ofText (text : String) : Layout :=
  let cs := match text.toList with
    | '\ufeff' :: rest => rest
    | cs => cs
  { cursor := Cursor.start cs, marked := cs.head? == some '\ufeff' }

end Layout

/-- The tokens of a text. A text that breaks the rules has no end among its tokens, and only those
that can be used before the place where it does. -/
def tokens (text : String) : List Token :=
  let layout := Layout.ofText text
  layout.run (layout.cursor.place.left + 2)

end QueryLint.Yaml
