/-!
Integers as users write them: an optional sign, an optional mark for the base, and digits among
which underscores may stand. A leading zero alone marks the base eight. Values fit 64 bits.
-/

namespace QueryLint.Number

inductive IntegerFault where
  | syntactic
  | outOfRange
deriving DecidableEq, Repr, Inhabited

def IntegerFault.message : IntegerFault → String
  | .syntactic => "invalid syntax"
  | .outOfRange => "value out of range"

def leastInt64 : Int := -0x8000000000000000

def greatestInt64 : Int := 0x7fffffffffffffff

def fitsInt64 (value : Int) : Bool := leastInt64 ≤ value && value ≤ greatestInt64

def digitValue? (c : Char) : Option Nat :=
  if '0' ≤ c && c ≤ '9' then some (c.toNat - 0x30)
  else if 'a' ≤ c.toLower && c.toLower ≤ 'z' then some (c.toLower.toNat - 0x61 + 10)
  else none

def splitBase : List Char → Nat × List Char
  | '0' :: mark :: digit :: rest =>
    if mark.toLower = 'b' then (2, digit :: rest)
    else if mark.toLower = 'o' then (8, digit :: rest)
    else if mark.toLower = 'x' then (16, digit :: rest)
    else (8, mark :: digit :: rest)
  | '0' :: rest => (8, rest)
  | digits => (10, digits)

inductive DigitContext where
  | start
  | digit
  | underscore
  | other
deriving DecidableEq, Repr

def underscoresSeparate (hexadecimal : Bool) : DigitContext → List Char → Bool
  | context, [] => context != .underscore
  | context, c :: rest =>
    if c.isDigit || (hexadecimal && 'a' ≤ c.toLower && c.toLower ≤ 'f') then
      underscoresSeparate hexadecimal .digit rest
    else if c = '_' then
      context == .digit && underscoresSeparate hexadecimal .underscore rest
    else context != .underscore && underscoresSeparate hexadecimal .other rest

def underscoresFit : List Char → Bool
  | '0' :: mark :: rest =>
    if mark.toLower = 'b' || mark.toLower = 'o' || mark.toLower = 'x' then
      underscoresSeparate (mark.toLower = 'x') .digit rest
    else underscoresSeparate false .start ('0' :: mark :: rest)
  | cs => underscoresSeparate false .start cs

/-- The value of digits; the first digit that makes it too large ends the reading. -/
def readDigits (base : Nat) : Nat → List Char → Except IntegerFault Nat
  | value, [] => .ok value
  | value, c :: rest =>
    if c = '_' then readDigits base value rest
    else match digitValue? c with
      | none => .error .syntactic
      | some digit =>
        if base ≤ digit then .error .syntactic
        else if 0x10000000000000000 ≤ value * base + digit then .error .outOfRange
        else readDigits base (value * base + digit) rest

def readUnsigned (cs : List Char) : Except IntegerFault Nat := do
  if cs.isEmpty then throw .syntactic
  let (base, digits) := splitBase cs
  let value ← readDigits base 0 digits
  if underscoresFit cs then return value else throw .syntactic

def readInteger (text : String) : Except IntegerFault Int := do
  let value ← match text.toList with
    | '+' :: digits => Int.ofNat <$> readUnsigned digits
    | '-' :: digits => (fun value => -Int.ofNat value) <$> readUnsigned digits
    | digits => Int.ofNat <$> readUnsigned digits
  if fitsInt64 value then return value else throw .outOfRange

def readBool? (text : String) : Option Bool :=
  if ["1", "t", "T", "TRUE", "true", "True"].contains text then some true
  else if ["0", "f", "F", "FALSE", "false", "False"].contains text then some false
  else none

end QueryLint.Number
