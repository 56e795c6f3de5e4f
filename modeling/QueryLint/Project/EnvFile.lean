import QueryLint.Dialect.Basic
import QueryLint.Text.Blank
import QueryLint.Text.Utf8

/-!
Files of environment variables: lines such as `NAME=value` or `NAME: value`, perhaps after the word
`export`. A value may stand in quotes and then go over several lines. Outside single quotes, a
dollar sign and a name stand for a variable that the file has set before.
-/

namespace QueryLint.EnvFile

abbrev Variables := List (String × String)

def isSpace (c : Char) : Bool :=
  [0x09, 0x0B, 0x0C, 0x0D, 0x20, 0x85, 0xA0].contains c.toNat

def isNameByte (byte : UInt8) : Bool :=
  let n := byte.toNat
  let c := Char.ofNat n
  c.isAlphanum || c == '_' || c == '.' || isSpace c ||
    [0xAA, 0xB2, 0xB3, 0xB5, 0xB9, 0xBA, 0xBC, 0xBD, 0xBE].contains n ||
    (0xC0 ≤ n && n != 0xD7 && n != 0xF7)

/-- Whether every byte of a character may stand in a name. -/
def isNameChar (c : Char) : Bool := (Text.encode (String.singleton c)).all isNameByte

/-! ### Values -/

def isReference (c : Char) : Bool := c.isUpper || c.isDigit || c == '_'

def dropOne (c : Char) : List Char → List Char
  | [] => []
  | d :: rest => if d = c then rest else d :: rest

/-- What follows a dollar sign: the name, which may be empty, and the rest. Brackets around the
name are dropped, except for a round one that closes. -/
def reference (cs : List Char) : List Char × List Char :=
  let (name, rest) := (dropOne '\x7b' (dropOne '(' cs)).span isReference
  (name, dropOne '\x7d' rest)

/-- Replaces references by what they stand for; a backslash before a dollar sign keeps it as it
is. The rest of what a reference covers is skipped. -/
def expand (known : Variables) : Nat → List Char → List Char
  | _, [] => []
  | skip + 1, _ :: rest => expand known skip rest
  | 0, c :: rest =>
    if c = '\\' && rest.head? = some '$' then
      let covered := rest.take (rest.length - (reference (rest.drop 1)).2.length)
      covered ++ expand known covered.length rest
    else if c = '$' then
      let (name, after) := reference rest
      let size := rest.length - after.length
      if name.isEmpty then c :: rest.take size ++ expand known size rest
      else ((known.lookup (String.ofList name)).getD "").toList ++ expand known size rest
    else c :: expand known 0 rest

def lineEscapes : List Char → List Char
  | '\\' :: 'n' :: rest => '\n' :: lineEscapes rest
  | '\\' :: 'r' :: rest => '\r' :: lineEscapes rest
  | '\\' :: c :: rest => '\\' :: c :: lineEscapes rest
  | c :: rest => c :: lineEscapes rest
  | [] => []

def dropEscapes : List Char → List Char
  | '\\' :: c :: rest =>
    if c = '$' then '\\' :: c :: dropEscapes rest else c :: dropEscapes rest
  | c :: rest => c :: dropEscapes rest
  | [] => []

/-- A line without the comment at its end: the last number sign after white space and all that
follows. -/
def dropComment (cs : List Char) : List Char :=
  let marks := (List.range cs.length).filter fun i =>
    cs[i]? == some '#' && 0 < i && (cs[i - 1]?).any isSpace
  match marks.getLast? with
  | some mark => cs.take mark
  | none => cs

/-- Where a quoted text ends: the characters up to a quote without a backslash before it, in
reverse, and what follows. -/
def closing? (quote : Char) (before : List Char) : List Char → Option (List Char × List Char)
  | [] => none
  | c :: rest =>
    if c = quote && before.head? != some '\\' then some (before, rest)
    else closing? quote (c :: before) rest

def isQuote (c : Char) : Bool := c == '"' || c == '\''

def value? (known : Variables) (cs : List Char) : Option (String × List Char) :=
  match cs with
  | [] => some ("", [])
  | first :: rest =>
    if isQuote first then do
      let (before, after) ← closing? first [first] rest
      let text := Text.trimEndList (· == first) (before.reverse.dropWhile (· == first))
      let text := if first = '"' then expand known 0 (dropEscapes (lineEscapes text)) else text
      return (String.ofList text, after)
    else
      let (line, after) := cs.span fun c => c != '\n' && c != '\r'
      let text := Text.trimEndList isSpace ((dropComment line).dropWhile isSpace)
      some (String.ofList (expand known 0 text), after)

/-! ### Statements -/

/-- Goes over white space and comments to the next statement. -/
def skipFree : Bool → List Char → List Char
  | _, [] => []
  | comment, c :: rest =>
    if c = '\n' then skipFree false rest
    else if comment then skipFree true rest
    else if Text.isBlank c then skipFree false rest
    else if c = '#' then skipFree true rest
    else c :: rest

def dropExport (cs : List Char) : List Char :=
  match Text.stripStart? "export".toList cs with
  | some (c :: rest) => if isSpace c then rest.dropWhile isSpace else cs
  | _ => cs

/-- The name that a statement begins with, and what follows its mark; none if something else or
nothing stands there. Without a mark there is no name, and all is the value. -/
def name? (cs : List Char) : Option (String × List Char) :=
  let statement := dropExport cs
  let (name, rest) := statement.span fun c => c != '=' && c != ':' && isNameChar c
  match rest with
  | [] => if statement.isEmpty then none else some ("", statement)
  | mark :: after =>
    if mark = '=' || mark = ':' then
      some (Text.trimEndWhile Text.isBlank (String.ofList name), after.dropWhile isSpace)
    else none

/-- Reads statements, of which the last for a name counts. -/
def statements? : Nat → Variables → List Char → Option Variables
  | 0, known, _ => some known
  | fuel + 1, known, cs =>
    match skipFree false cs with
    | [] => some known
    | start => do
      let (name, rest) ← name? start
      let (value, after) ← value? known rest
      statements? fuel (setKey name value known) after

/-- The variables of a file; none if it breaks the rules. -/
def read? (text : String) : Option Variables :=
  let cs := (Text.replaceAll "\r\n" "\n" text).toList
  statements? (cs.length + 1) [] cs

/-- An environment with what a file adds to it: variables that are set already stay as they are,
and there are none without a name. -/
def addTo (environment added : Variables) : Variables :=
  environment ++ added.filter fun (name, _) =>
    !name.isEmpty && (environment.lookup name).isNone

end QueryLint.EnvFile
