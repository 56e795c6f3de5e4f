import QueryLint.Text.Utf8

/-!
Bytes written in base 64: each character stands for six bits, four characters stand for three
bytes, and equal signs fill up the last four. Line ends between the characters have no meaning.
-/

namespace QueryLint.Text

def sextet? (c : Char) : Option Nat :=
  if 'A' ≤ c && c ≤ 'Z' then some (c.toNat - 0x41)
  else if 'a' ≤ c && c ≤ 'z' then some (c.toNat - 0x61 + 26)
  else if '0' ≤ c && c ≤ '9' then some (c.toNat - 0x30 + 52)
  else if c = '+' then some 62
  else if c = '/' then some 63
  else none

/-- The bytes that groups of four characters stand for; only the last group may be filled up. -/
def octetsOfBase64? : List Char → Option Bytes
  | [] => some []
  | [a, b, '=', '='] => do
    let bits := (← sextet? a) * 64 + (← sextet? b)
    return [UInt8.ofNat (bits / 16)]
  | [a, b, c, '='] => do
    let bits := ((← sextet? a) * 64 + (← sextet? b)) * 64 + (← sextet? c)
    return [UInt8.ofNat (bits / 1024), UInt8.ofNat (bits / 4 % 256)]
  | a :: b :: c :: d :: rest => do
    let bits := (((← sextet? a) * 64 + (← sextet? b)) * 64 + (← sextet? c)) * 64 + (← sextet? d)
    let others ← octetsOfBase64? rest
    return UInt8.ofNat (bits / 65536) :: UInt8.ofNat (bits / 256 % 256) ::
      UInt8.ofNat (bits % 256) :: others
  | _ => none

def ofBase64? (text : String) : Option String :=
  (octetsOfBase64? (text.toList.filter fun c => c != '\n' && c != '\r')).map decode

end QueryLint.Text
