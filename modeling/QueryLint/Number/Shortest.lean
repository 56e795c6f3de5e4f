import QueryLint.Number.Integer

/-!
Decimal texts of binary numbers. A number is written with the fewest digits that read back as the
same number, and of those with the digits nearest to it.
-/

namespace QueryLint.Number

/-- A number of the form ± mantissa · 2 ^ exponent. -/
structure Binary where
  negative : Bool
  mantissa : Nat
  exponent : Int
deriving DecidableEq, Repr, Inhabited

inductive FloatValue where
  | finite (value : Binary)
  | infinite (negative : Bool)
  | notANumber
deriving DecidableEq, Repr, Inhabited

/-- The value of a floating point number, from its sign, exponent and fraction bits. -/
def FloatValue.ofFloat (value : Float) : FloatValue :=
  let bits := value.toBits.toNat
  let negative := bits / Nat.pow 2 63 == 1
  let exponent : Nat := bits / Nat.pow 2 52 % Nat.pow 2 11
  let fraction := bits % Nat.pow 2 52
  if exponent = 0 then .finite ⟨negative, fraction, -1074⟩
  else if exponent < 2047 then .finite ⟨negative, Nat.pow 2 52 + fraction, (exponent : Int) - 1075⟩
  else if fraction = 0 then .infinite negative
  else .notANumber

/-- The digits of a decimal number 0.d₁d₂… · 10 ^ point, without zeros at the end. -/
structure Decimal where
  digits : List Nat
  point : Int
deriving DecidableEq, Repr, Inhabited

structure Ratio where
  numerator : Nat
  denominator : Nat

namespace Ratio

def scale (ratio : Ratio) (base : Nat) (exponent : Int) : Ratio :=
  if 0 ≤ exponent then ⟨ratio.numerator * Nat.pow base exponent.toNat, ratio.denominator⟩
  else ⟨ratio.numerator, ratio.denominator * Nat.pow base (-exponent).toNat⟩

def le (a b : Ratio) : Bool := a.numerator * b.denominator ≤ b.numerator * a.denominator

def lt (a b : Ratio) : Bool := !le b a

def distance (a b : Ratio) : Ratio :=
  let left := a.numerator * b.denominator
  let right := b.numerator * a.denominator
  ⟨if left ≤ right then right - left else left - right, a.denominator * b.denominator⟩

end Ratio

namespace Binary

def magnitude (value : Binary) : Ratio := Ratio.scale ⟨value.mantissa, 1⟩ 2 value.exponent

/-- The numbers that read back as a binary number lie between these two; the ends belong to them
if the mantissa is even. Below a power of two the neighbour is nearer. -/
def readBack (value : Binary) : Ratio × Ratio :=
  let low := if value.mantissa = Nat.pow 2 52 && -1074 < value.exponent then
      Ratio.scale ⟨4 * value.mantissa - 1, 1⟩ 2 (value.exponent - 2)
    else Ratio.scale ⟨2 * value.mantissa - 1, 1⟩ 2 (value.exponent - 1)
  (low, Ratio.scale ⟨2 * value.mantissa + 1, 1⟩ 2 (value.exponent - 1))

def readsBack (value : Binary) (candidate : Ratio) : Bool :=
  let (low, high) := value.readBack
  if value.mantissa % 2 = 0 then low.le candidate && candidate.le high
  else low.lt candidate && candidate.lt high

end Binary

def belowPower (ratio : Ratio) (exponent : Int) : Bool := ratio.lt (Ratio.scale ⟨1, 1⟩ 10 exponent)

def decimalExponent (ratio : Ratio) (least : Int) : Nat → Int
  | 0 => least
  | fuel + 1 =>
    if belowPower ratio least then least else decimalExponent ratio (least + 1) fuel

def digitsOf (value : Nat) : List Nat := (Nat.toDigits 10 value).map fun c => c.toNat - 0x30

def decimalOf (count : Nat) (exponent : Int) : Decimal :=
  let digits := digitsOf count
  ⟨(digits.reverse.dropWhile (· = 0)).reverse, exponent + digits.length⟩

def withDigits? (value : Binary) (point : Int) (digits : Nat) : Option Decimal :=
  let exponent := point - digits
  let scaled := Ratio.scale value.magnitude 10 (-exponent)
  let low := scaled.numerator / scaled.denominator
  let fits (count : Nat) : Bool := value.readsBack (Ratio.scale ⟨count, 1⟩ 10 exponent)
  let nearer := (Ratio.distance scaled ⟨low, 1⟩).le (Ratio.distance scaled ⟨low + 1, 1⟩)
  if fits low && (nearer || !fits (low + 1)) then some (decimalOf low exponent)
  else if fits (low + 1) then some (decimalOf (low + 1) exponent)
  else none

/-- The shortest decimal that reads back as a number; zero has no digits. -/
def shortest (value : Binary) : Decimal :=
  if value.mantissa = 0 then ⟨[], 0⟩
  else
    let point := decimalExponent value.magnitude (-330) 700
    ((List.range 17).findSome? fun digits => withDigits? value point (digits + 1)).getD ⟨[], 0⟩

def digitText (digits : List Nat) : String :=
  String.ofList (digits.map fun digit => Char.ofNat (0x30 + digit))

def positional (decimal : Decimal) : String :=
  let zeros (count : Int) : String := String.ofList (List.replicate count.toNat '0')
  let size : Int := decimal.digits.length
  if decimal.digits.isEmpty then "0"
  else if decimal.point ≤ 0 then "0." ++ zeros (-decimal.point) ++ digitText decimal.digits
  else if size ≤ decimal.point then
    digitText decimal.digits ++ zeros (decimal.point - size)
  else
    let whole := decimal.point.toNat
    digitText (decimal.digits.take whole) ++ "." ++ digitText (decimal.digits.drop whole)

/-- A decimal with one digit before the point and an exponent of at least `width` digits. -/
def scientific (width : Nat) (decimal : Decimal) : String :=
  let exponent := decimal.point - 1
  let fraction := digitText (decimal.digits.drop 1)
  let size := toString exponent.natAbs
  digitText (decimal.digits.take 1) ++ (if fraction.isEmpty then "" else "." ++ fraction) ++
    (if exponent < 0 then "e-" else "e+") ++
    String.ofList (List.replicate (width - size.length) '0') ++ size

def signed (negative : Bool) (text : String) : String := if negative then "-" ++ text else text

def plainText (value : Float) : String :=
  match FloatValue.ofFloat value with
  | .finite binary => signed binary.negative (positional (shortest binary))
  | .infinite negative => if negative then "-Inf" else "+Inf"
  | .notANumber => "NaN"

structure ExponentStyle where
  /-- The least and the greatest place of the point without an exponent. -/
  least : Int
  greatest : Int
  /-- How many digits an exponent has at least. -/
  width : Nat

def styledText (style : ExponentStyle) (value : Float) : String :=
  match FloatValue.ofFloat value with
  | .finite binary =>
    let decimal := shortest binary
    signed binary.negative <|
      if !decimal.digits.isEmpty &&
          (decimal.point < style.least || style.greatest < decimal.point) then
        scientific style.width decimal
      else positional decimal
  | .infinite negative => if negative then "-Inf" else "+Inf"
  | .notANumber => "NaN"

def documentText (value : Float) : String := styledText ⟨-5, 21, 1⟩ value

def keyText (value : Float) : String := styledText ⟨-3, 6, 2⟩ value

/-- A number without its fraction; one that does not fit 64 bits becomes the least value. -/
def truncate (value : Float) : Int :=
  match FloatValue.ofFloat value with
  | .finite binary =>
    let size := binary.magnitude
    let whole : Int := (size.numerator / size.denominator : Nat)
    let result := if binary.negative then -whole else whole
    if fitsInt64 result then result else leastInt64
  | _ => leastInt64

def isNonzero (value : Float) : Bool :=
  match FloatValue.ofFloat value with
  | .finite binary => binary.mantissa != 0
  | _ => true

end QueryLint.Number
