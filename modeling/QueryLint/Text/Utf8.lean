/-!
Text as bytes. Sources are measured and cut by bytes, while names and messages are character
strings: `encode` lists the UTF-8 bytes of a string, and `decode` reads bytes back, with one
replacement character for each byte that belongs to no well-formed sequence.
-/

namespace QueryLint.Text

abbrev Bytes := List UInt8

def encode (text : String) : Bytes := text.toUTF8.toList

/-- The low six bits of a byte of the form `10xxxxxx`. -/
def continuation? (byte : UInt8) : Option Nat :=
  if 0x80 ≤ byte && byte < 0xC0 then some (byte.toNat - 0x80) else none

/-- What the characters after the first byte of a sequence contribute, if all of them are there. -/
def continuations? (count : Nat) (bytes : Bytes) : Option Nat :=
  let tail := bytes.take count
  if tail.length < count then none
  else tail.foldlM (fun value byte => (continuation? byte).map (value * 64 + ·)) 0

/-- The character that starts a byte string and its number of bytes, unless the bytes are not a
shortest-form encoding of a character. -/
def leadingChar? : Bytes → Option (Char × Nat)
  | [] => none
  | byte :: rest =>
    let lead := byte.toNat
    let sequence (marker count least : Nat) : Option (Char × Nat) := do
      let low ← continuations? count rest
      let codePoint := (lead - marker) * Nat.pow 64 count + low
      if least ≤ codePoint && codePoint.isValidChar then
        some (Char.ofNat codePoint, count + 1)
      else none
    if lead < 0x80 then some (Char.ofNat lead, 1)
    else if 0xC0 ≤ lead && lead < 0xE0 then sequence 0xC0 1 0x80
    else if 0xE0 ≤ lead && lead < 0xF0 then sequence 0xE0 2 0x800
    else if 0xF0 ≤ lead && lead < 0xF8 then sequence 0xF0 3 0x10000
    else none

/-- The characters of a byte string, where `skip` bytes still belong to the character before. -/
def decodeFrom : Bytes → Nat → List Char
  | [], _ => []
  | _ :: rest, skip + 1 => decodeFrom rest skip
  | byte :: rest, 0 =>
    match leadingChar? (byte :: rest) with
    | some (char, width) => char :: decodeFrom rest (width - 1)
    | none => '\uFFFD' :: decodeFrom rest 0

def decode (bytes : Bytes) : String := String.ofList (decodeFrom bytes 0)

end QueryLint.Text
