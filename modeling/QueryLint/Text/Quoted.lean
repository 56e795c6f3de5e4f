import QueryLint.Text.Graphic

/-!
Quoted text in messages: a text between double quotes in which every character is visible.
Quotes and backslashes are escaped, the usual controls have letters, and any other character
without a visible form is written by its code in hexadecimal digits.
-/

namespace QueryLint.Text

def hexDigit (value : Nat) : Char :=
  if value < 10 then Char.ofNat (0x30 + value) else Char.ofNat (0x57 + value)

def hexDigits : Nat → Nat → List Char
  | 0, _ => []
  | width + 1, value => hexDigits width (value / 16) ++ [hexDigit (value % 16)]

def quoteChar (c : Char) : List Char :=
  match c.toNat with
  | 0x22 => ['\\', '"']
  | 0x5C => ['\\', '\\']
  | 0x07 => ['\\', 'a']
  | 0x08 => ['\\', 'b']
  | 0x09 => ['\\', 't']
  | 0x0A => ['\\', 'n']
  | 0x0B => ['\\', 'v']
  | 0x0C => ['\\', 'f']
  | 0x0D => ['\\', 'r']
  | n =>
    if isGraphic c then [c]
    else if n < 0x80 then '\\' :: 'x' :: hexDigits 2 n
    else if n < 0x10000 then '\\' :: 'u' :: hexDigits 4 n
    else '\\' :: 'U' :: hexDigits 8 n

def quoted (text : String) : String :=
  String.ofList ('"' :: (text.toList.flatMap quoteChar ++ ['"']))

/-- A character as a quoted literal; inside single quotes, the double quote needs no escape. -/
def quotedChar (c : Char) : String :=
  let inner := if c = '\'' then ['\\', c] else if c = '"' then [c] else quoteChar c
  String.ofList ('\'' :: (inner ++ ['\'']))

end QueryLint.Text
