import QueryLint.Text.Utf8
import QueryLint.Yaml.Token
import QueryLint.Yaml.Words

/-!
Names, tags and directives of YAML documents. A tag has a handle, which stands for the beginning of
a longer tag, and a suffix; in a suffix any character may be written as bytes in hexadecimal.
-/

namespace QueryLint.Yaml

/-! ### Names -/

def readName (cursor : Cursor) : String × Cursor :=
  let (name, after) := cursor.readUntil fun cs => !cs.head?.any isNameChar
  (String.ofList name, after)

/-- The name after a mark; a blank or one of some marks follows it. -/
def markedName? (cursor : Cursor) : Option (String × Cursor) :=
  let (name, after) := readName (cursor.skip 1)
  let ended := startsBlank after.rest ||
    after.rest.head?.any (['?', ':', ',', ']', '\x7d', '%', '@', '\x60'].contains ·)
  if name.isEmpty || !ended then none else some (name, after)

/-! ### Tags -/

def isTagChar (c : Char) : Bool := isNameChar c || ";/?:@&=+$,.!~*'()[]%".toList.contains c

def escapedByte? : List Char → Option UInt8
  | '%' :: high :: low :: _ => do
    return UInt8.ofNat ((← hexDigit? high) * 16 + (← hexDigit? low))
  | _ => none

def followers? (lead : UInt8) : Option Nat :=
  if lead < 0x80 then some 0
  else if 0xC0 ≤ lead && lead < 0xE0 then some 1
  else if 0xE0 ≤ lead && lead < 0xF0 then some 2
  else if 0xF0 ≤ lead && lead < 0xF8 then some 3
  else none

def followingBytes? : Nat → Cursor → Option (List UInt8 × Cursor)
  | 0, cursor => some ([], cursor)
  | count + 1, cursor => do
    let byte ← escapedByte? cursor.rest
    if byte < 0x80 || 0xC0 ≤ byte then failure
    let (bytes, after) ← followingBytes? count (cursor.skip 3)
    return (byte :: bytes, after)

def escapedChar? (cursor : Cursor) : Option (List Char × Cursor) := do
  let lead ← escapedByte? cursor.rest
  let (bytes, after) ← followingBytes? (← followers? lead) (cursor.skip 3)
  return ((Text.decode (lead :: bytes)).toList, after)

/-- Reads a suffix on; `text` is what has been read of it, in reverse. -/
def suffix? : Nat → List Char → Cursor → Option (String × Cursor)
  | 0, text, cursor => some (String.ofList text.reverse, cursor)
  | fuel + 1, text, cursor =>
    match cursor.rest.head? with
    | none => some (String.ofList text.reverse, cursor)
    | some c =>
      if c = '%' then do
        let (chars, after) ← escapedChar? cursor
        suffix? fuel (chars.reverse ++ text) after
      else if isTagChar c then suffix? fuel (c :: text) (cursor.skip 1)
      else some (String.ofList text.reverse, cursor)

def someSuffix? (cursor : Cursor) : Option (String × Cursor) := do
  let (suffix, after) ← suffix? cursor.place.left [] cursor
  if after.place.left < cursor.place.left then return (suffix, after) else failure

/-- A handle: a name between exclamation marks, of which the second may be missing. -/
def readHandle (cursor : Cursor) : String × Bool × Cursor :=
  let (name, after) := readName (cursor.skip 1)
  if after.sees '!' then ("!" ++ name ++ "!", true, after.skip 1) else ("!" ++ name, false, after)

def tagParts? (cursor : Cursor) : Option (Token × Cursor) :=
  if (cursor.skip 1).sees '<' then do
    let (suffix, after) ← someSuffix? (cursor.skip 2)
    if after.sees '>' then return (.tag "" suffix, after.skip 1) else failure
  else
    let (handle, closed, after) := readHandle cursor
    if closed then do
      let (suffix, last) ← someSuffix? after
      return (.tag handle suffix, last)
    else do
      let (suffix, last) ← suffix? after.place.left (handle.toList.drop 1).reverse after
      return (if suffix.isEmpty then .tag "" "!" else .tag "!" suffix, last)

/-- A tag, which a blank follows; the cursor is at its exclamation mark. -/
def tag? (cursor : Cursor) : Option (Token × Cursor) := do
  let (token, after) ← tagParts? cursor
  if startsBlank after.rest then return (token, after) else failure

/-! ### Directives -/

def versionNumber? (cursor : Cursor) : Option (Nat × Cursor) :=
  let (digits, after) := cursor.readUntil fun cs => !cs.head?.any Char.isDigit
  if digits.isEmpty || 2 < digits.length then none
  else some (digits.foldl (fun value c => value * 10 + (c.toNat - 0x30)) 0, after)

def versionDirective? (cursor : Cursor) : Option (Token × Cursor) := do
  let (major, after) ← versionNumber? cursor
  if !after.sees '.' then failure
  let (minor, after) ← versionNumber? (after.skip 1)
  return (.version major minor, after)

def handleDirective? (cursor : Cursor) : Option (Token × Cursor) := do
  if !cursor.sees '!' then failure
  let (handle, closed, after) := readHandle cursor
  if !closed && handle != "!" then failure
  if !startsSpace after.rest then failure
  let (start, last) ← someSuffix? after.skipSpaces
  if startsBlank last.rest then return (.tagHandle handle start, last) else failure

/-- A directive with the line in which it stands; the cursor is at its percent sign. -/
def directive? (cursor : Cursor) : Option (Token × Cursor) := do
  let (name, after) := readName (cursor.skip 1)
  if !startsBlank after.rest then failure
  let (token, last) ←
    if name = "YAML" then versionDirective? after.skipSpaces
    else if name = "TAG" then handleDirective? after.skipSpaces
    else none
  let last := last.skipSpaces
  let last := if last.sees '#' then last.skipLine else last
  if endsLine last.rest then return (token, last.skipLineEnd) else failure

end QueryLint.Yaml
