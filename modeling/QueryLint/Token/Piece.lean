import QueryLint.Token.Basic

/-!
Cutting a source into pieces: runs of white space, comments and lexemes, one after the other, so
that the bytes of the pieces together are the source. A piece is read off the start of the
remaining bytes alone and takes at least one of them; where the pieces stand plays no part here.
-/

namespace QueryLint

open Text (Bytes)

structure Lexicon where
  /-- Further symbols with their kinds. -/
  symbols : List (Bytes × TokenKind) := []
  /-- Further reserved words, in upper case, with their kinds. -/
  words : List (String × TokenKind) := []

inductive LexicalFault where
  | unterminatedString
  | unterminatedIdentifier
  | unterminatedComment
deriving DecidableEq, Repr, Inhabited

namespace LexicalFault

def message : LexicalFault → String
  | .unterminatedString => "unterminated string literal"
  | .unterminatedIdentifier => "unterminated quoted identifier"
  | .unterminatedComment => "unterminated block comment"

end LexicalFault

inductive PieceContent where
  | blank
  | comment (kind : CommentKind) (literal : Bytes) (fault : Option LexicalFault)
  | lexeme (kind : TokenKind) (literal : Bytes) (quoted : Bool) (fault : Option LexicalFault)
deriving DecidableEq, Repr

structure Piece where
  source : Bytes
  content : PieceContent
deriving DecidableEq, Repr

namespace Lexing

/-! ### Classes of bytes -/

def isBlank (b : UInt8) : Bool := b == 0x20 || b == 0x09 || b == 0x0A || b == 0x0D || b == 0x0C

def isDigit (b : UInt8) : Bool := 0x30 ≤ b && b ≤ 0x39

def isHexDigit (b : UInt8) : Bool :=
  isDigit b || (0x61 ≤ b && b ≤ 0x66) || (0x41 ≤ b && b ≤ 0x46)

/-- Letters, the underscore and every byte beyond ASCII. -/
def startsIdentifier (b : UInt8) : Bool :=
  b == 0x5F || (0x61 ≤ b && b ≤ 0x7A) || (0x41 ≤ b && b ≤ 0x5A) || 0x80 ≤ b

def continuesIdentifier (b : UInt8) : Bool := startsIdentifier b || isDigit b

def widthWhile (keep : UInt8 → Bool) (bytes : Bytes) : Nat := (bytes.takeWhile keep).length

def startsWith (keep : UInt8 → Bool) (bytes : Bytes) : Bool := bytes.head?.any keep

/-! ### Quoted text -/

structure Quotation where
  content : Bytes := []
  width : Nat := 0
  closed : Bool := false

namespace Quotation

def behind (rest : Quotation) (content : Bytes) (width : Nat) : Quotation :=
  { rest with content := content ++ rest.content, width := width + rest.width }

end Quotation

/-- The byte that a backslash and a letter stand for. -/
def unescape (b : UInt8) : UInt8 :=
  if b = 0x6E then 0x0A
  else if b = 0x74 then 0x09
  else if b = 0x72 then 0x0D
  else if b = 0x30 then 0
  else b

/-- A string after its opening quotes. A single-quoted string ends at a line feed unterminated;
a backslash before a zero byte is dropped. -/
def readString (quote : UInt8) (triple raw : Bool) : Bytes → Quotation
  | [] => {}
  | b :: rest =>
    if b = 0x5C then
      match rest with
      | [] => { width := 1 }
      | c :: rest' =>
        (readString quote triple raw rest').behind
          (if c = 0 then [c] else if raw then [b, c] else [unescape c]) 2
    else if b = quote && !triple then { width := 1, closed := true }
    else if b = quote && rest.take 2 = [quote, quote] then { width := 3, closed := true }
    else if b = 0x0A && !triple then {}
    else (readString quote triple raw rest).behind [b] 1

/-- A quoted identifier after its opening back quote. It ends at a line feed unterminated, and a
backslash takes the next byte as it is, unless that is a zero byte. -/
def readIdentifier : Bytes → Quotation
  | [] => {}
  | b :: rest =>
    if b = 0x0A then {}
    else if b = 0x5C then
      match rest with
      | [] => { content := [b], width := 1 }
      | c :: rest' =>
        (readIdentifier rest').behind (if c = 0 then [b, c] else [c]) 2
    else if b = 0x60 then { width := 1, closed := true }
    else (readIdentifier rest).behind [b] 1

/-- The bytes of a block comment after its opening up to and including the closing delimiter;
a zero byte ends the comment unterminated. -/
def readComment : Bytes → Quotation
  | [] => {}
  | b :: rest =>
    if b = 0 then {}
    else if b = 0x2A && rest.head? = some 0x2F then { width := 2, closed := true }
    else (readComment rest).behind [b] 1

/-! ### Numbers -/

/-- Width of an exponent, zero if none follows. -/
def exponentWidth (bytes : Bytes) : Nat :=
  match bytes with
  | e :: rest =>
    if e = 0x65 || e = 0x45 then
      let sign := if startsWith (fun b => b == 0x2B || b == 0x2D) rest then 1 else 0
      let digits := widthWhile isDigit (rest.drop sign)
      if digits = 0 then 0 else 1 + sign + digits
    else 0
  | [] => 0

/-- Width of a point with the digits after it; a point before a letter is no part of a number. -/
def fractionWidth (bytes : Bytes) : Nat :=
  match bytes with
  | point :: rest =>
    if point = 0x2E && !startsWith startsIdentifier rest then 1 + widthWhile isDigit rest else 0
  | [] => 0

/-- Width of a numeric literal: hexadecimal digits after `0x`, or a decimal number. -/
def numberWidth (bytes : Bytes) : Nat :=
  if bytes.head? = some 0x30 && startsWith (fun b => b == 0x78 || b == 0x58) (bytes.drop 1) then
    2 + widthWhile isHexDigit (bytes.drop 2)
  else
    let whole := widthWhile isDigit bytes
    let fraction := fractionWidth (bytes.drop whole)
    let exponent := exponentWidth (bytes.drop (whole + fraction))
    whole + fraction + exponent

/-! ### Lexemes -/

abbrev Reading := PieceContent × Nat

def verbatim (kind : TokenKind) (width : Nat) (bytes : Bytes) : Reading :=
  (.lexeme kind (bytes.take width) false none, width)

def stringLexeme (skip : Nat) (raw : Bool) (bytes : Bytes) : Reading :=
  let rest := bytes.drop skip
  let quote := rest.headD 0
  let triple := (rest.drop 1).take 2 = [quote, quote]
  let opening := skip + if triple then 3 else 1
  let quotation := readString quote triple raw (bytes.drop opening)
  (.lexeme .string quotation.content false
    (if quotation.closed then none else some .unterminatedString), opening + quotation.width)

def identifierLexeme (bytes : Bytes) : Reading :=
  let quotation := readIdentifier (bytes.drop 1)
  (.lexeme .identifier quotation.content true
    (if quotation.closed then none else some .unterminatedIdentifier), 1 + quotation.width)

/-- A parameter `@name` or a system variable `@@name`. -/
def parameterLexeme (bytes : Bytes) : Reading :=
  let signs := if (bytes.drop 1).head? = some 0x40 then 2 else 1
  verbatim .identifier (signs + widthWhile continuesIdentifier (bytes.drop signs)) bytes

/-- The kind of an unquoted word: reserved by every dialect, by this one, or a name. -/
def kindOfWord (lexicon : Lexicon) (text : String) : TokenKind :=
  let upper := Text.upper text
  match Keyword.ofText? upper with
  | some keyword => .keyword keyword
  | none => (lexicon.words.lookup upper).getD .identifier

def wordLexeme (lexicon : Lexicon) (bytes : Bytes) : Reading :=
  let width := widthWhile continuesIdentifier bytes
  verbatim (kindOfWord lexicon (Text.decode (bytes.take width))) width bytes

/-- The length of the marks `r`, `b`, `rb` or `br`, in any letter case, in front of a string, and
whether they make it raw. -/
def stringMarks? (bytes : Bytes) : Option (Nat × Bool) :=
  let isRaw (b : UInt8) : Bool := b == 0x72 || b == 0x52
  let isBytes (b : UInt8) : Bool := b == 0x62 || b == 0x42
  let isQuote (b : UInt8) : Bool := b == 0x27 || b == 0x22
  match bytes with
  | a :: b :: rest =>
    if isQuote b && (isRaw a || isBytes a) then some (1, isRaw a)
    else if ((isRaw a && isBytes b) || (isBytes a && isRaw b)) && startsWith isQuote rest then
      some (2, true)
    else none
  | _ => none

def symbol? (lexicon : Lexicon) (bytes : Bytes) : Option (Bytes × TokenKind) :=
  let fits := lexicon.symbols.filter fun (symbol, _) => !symbol.isEmpty && symbol.isPrefixOf bytes
  fits.foldl (fun best fit =>
    match best with
    | some longest => if longest.1.length < fit.1.length then some fit else best
    | none => some fit) none

/-- The built-in symbol that starts with `b` when `next` follows, with its width. -/
def builtinSymbol? (b : UInt8) (next : Option UInt8) : Option (Symbol × Nat) :=
  match Char.ofNat b.toNat, next.map (Char.ofNat ·.toNat) with
  | '+', _ => some (.plus, 1)
  | '-', _ => some (.minus, 1)
  | '*', _ => some (.star, 1)
  | '/', _ => some (.slash, 1)
  | '%', _ => some (.percent, 1)
  | '=', some '>' => some (.arrow, 2)
  | '=', _ => some (.equal, 1)
  | '<', some '=' => some (.lessEqual, 2)
  | '<', some '>' => some (.notEqual, 2)
  | '<', some '<' => some (.shiftLeft, 2)
  | '<', _ => some (.less, 1)
  | '>', some '=' => some (.greaterEqual, 2)
  | '>', some '>' => some (.shiftRight, 2)
  | '>', _ => some (.greater, 1)
  | '!', some '=' => some (.notEqual, 2)
  | '|', some '|' => some (.concat, 2)
  | '|', _ => some (.pipe, 1)
  | '&', _ => some (.ampersand, 1)
  | '^', _ => some (.caret, 1)
  | '~', _ => some (.tilde, 1)
  | '.', following => if following.any Char.isDigit then none else some (.dot, 1)
  | ',', _ => some (.comma, 1)
  | ';', _ => some (.semicolon, 1)
  | '(', _ => some (.leftParen, 1)
  | ')', _ => some (.rightParen, 1)
  | '[', _ => some (.leftBracket, 1)
  | ']', _ => some (.rightBracket, 1)
  | _, _ => none

def readLexeme (lexicon : Lexicon) (b : UInt8) (rest : Bytes) : Reading :=
  let bytes := b :: rest
  match symbol? lexicon bytes with
  | some (symbol, kind) => verbatim kind symbol.length bytes
  | none =>
    match builtinSymbol? b rest.head? with
    | some (symbol, width) => verbatim (.symbol symbol) width bytes
    | none =>
      if b = 0x27 || b = 0x22 then stringLexeme 0 false bytes
      else if b = 0x60 then identifierLexeme bytes
      else if b = 0x40 then parameterLexeme bytes
      else match stringMarks? bytes with
        | some (width, raw) => stringLexeme width raw bytes
        | none =>
          if startsIdentifier b then wordLexeme lexicon bytes
          else if isDigit b || b = 0x2E then verbatim .number (numberWidth bytes) bytes
          else verbatim .illegal 1 bytes

/-! ### Comments and white space -/

/-- A line comment runs to the next line feed or zero byte; carriage returns at its end do not
belong to its text. -/
def lineComment (bytes : Bytes) : Reading :=
  let width := widthWhile (fun b => b != 0x0A && b != 0) bytes
  let literal := ((bytes.take width).reverse.dropWhile (· == 0x0D)).reverse
  (.comment .line literal none, width)

def blockComment (bytes : Bytes) : Reading :=
  let quotation := readComment (bytes.drop 2)
  let width := 2 + quotation.width
  (.comment .block (bytes.take width)
    (if quotation.closed then none else some .unterminatedComment), width)

def read (lexicon : Lexicon) (b : UInt8) (rest : Bytes) : Reading :=
  let bytes := b :: rest
  if isBlank b then (.blank, widthWhile isBlank bytes)
  else if b = 0x23 || (b = 0x2D && rest.head? = some 0x2D) then lineComment bytes
  else if b = 0x2F && rest.head? = some 0x2A then blockComment bytes
  else readLexeme lexicon b rest

def piecesFrom (lexicon : Lexicon) : Bytes → Nat → List Piece
  | [], _ => []
  | _ :: rest, skip + 1 => piecesFrom lexicon rest skip
  | b :: rest, 0 =>
    let (content, width) := read lexicon b rest
    ⟨(b :: rest).take width, content⟩ :: piecesFrom lexicon rest (width - 1)

end Lexing

def Lexicon.pieces (lexicon : Lexicon) (source : Bytes) : List Piece :=
  Lexing.piecesFrom lexicon source 0

end QueryLint
