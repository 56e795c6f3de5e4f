import QueryLint.Number.Shortest
import QueryLint.Setting.Basic
import QueryLint.Text.Base64
import QueryLint.Yaml.Moment
import QueryLint.Yaml.Node

/-!
What the scalars of a YAML document mean. Of a plain word the usual spellings of null and of truth
values are those values, integers and decimal numbers are numbers, dates are dates, and every other
word is a text. A tag can ask for one of these kinds; a word of another kind is then refused.
-/

namespace QueryLint.Yaml

def constants : List (String × Setting) :=
  [("", .null), ("~", .null), ("null", .null), ("Null", .null), ("NULL", .null),
    ("true", .bool true), ("True", .bool true), ("TRUE", .bool true),
    ("false", .bool false), ("False", .bool false), ("FALSE", .bool false),
    (".nan", .number (0.0 / 0.0)), (".NaN", .number (0.0 / 0.0)), (".NAN", .number (0.0 / 0.0)),
    (".inf", .number (1.0 / 0.0)), (".Inf", .number (1.0 / 0.0)), (".INF", .number (1.0 / 0.0)),
    ("+.inf", .number (1.0 / 0.0)), ("+.Inf", .number (1.0 / 0.0)),
    ("+.INF", .number (1.0 / 0.0)), ("-.inf", .number (-1.0 / 0.0)),
    ("-.Inf", .number (-1.0 / 0.0)), ("-.INF", .number (-1.0 / 0.0))]

/-! ### Numbers -/

/-- Splits a sign from a number; true is the minus. -/
def splitSign : List Char → Bool × List Char
  | '-' :: rest => (true, rest)
  | '+' :: rest => (false, rest)
  | cs => (false, cs)

/-- The power of ten after a number; no more than five digits of it make a difference. -/
def exponent? : List Char → Option Int
  | [] => some 0
  | mark :: rest =>
    let (negative, digits) := splitSign rest
    if mark.toLower = 'e' && !digits.isEmpty && digits.all Char.isDigit then
      let size := if digits.length ≤ 5 then digitsValue digits else 99999
      some (if negative then -(size : Int) else size)
    else none

/-- The number with a mantissa of digits and a power of ten; none if it is too large. -/
def scaled? (digits : List Char) (power : Int) : Option Float :=
  let value := digitsValue digits
  if value = 0 || power < -5000 then some 0.0
  else if 400 < power then none
  else
    let number := if 0 ≤ power then Float.ofScientific value false power.toNat
      else Float.ofScientific value true power.natAbs
    if number.isInf then none else some number

def decimal? (text : List Char) : Option Float := do
  let (negative, cs) := splitSign text
  let (whole, rest) := cs.span Char.isDigit
  let (fraction, rest) := match rest with
    | '.' :: rest => rest.span Char.isDigit
    | rest => ([], rest)
  if whole.isEmpty && fraction.isEmpty then failure
  let power ← exponent? rest
  let number ← scaled? (whole ++ fraction) (power - fraction.length)
  return if negative then -number else number

/-- A number that begins with its point; in it underscores may separate digits. -/
def fraction? (text : List Char) : Option Float :=
  if Number.underscoresSeparate false .start text then decimal? (text.filter (· != '_')) else none

/-- Gives a number its sign; an integer with a sign fits 64 bits together with it. -/
def signedInteger? (negative : Bool) (value : Nat) : Option Int :=
  let signed : Int := if negative then -value else value
  if Number.fitsInt64 signed then some signed else none

/-- An integer, which without a sign may take all 64 bits. -/
def integer? (text : List Char) : Option Int :=
  let (negative, digits) := splitSign text
  match Number.readUnsigned digits with
  | .ok value => if digits.length = text.length then some value else signedInteger? negative value
  | .error _ => none

def integerIn? (base : Nat) (text : List Char) : Option Int :=
  let (negative, digits) := splitSign text
  if digits.isEmpty then none
  else match Number.readDigits base 0 digits with
    | .ok value => if digits.length = text.length then some value else signedInteger? negative value
    | .error _ => none

/-- An integer with the mark of its base before its sign. -/
def markedInteger? : List Char → Option Int
  | '0' :: 'b' :: rest => integerIn? 2 rest
  | '0' :: 'o' :: rest => integerIn? 8 rest
  | _ => none

/-! ### Words -/

def number? (word : List Char) : Option Setting :=
  let plain := word.filter (· != '_')
  ((integer? plain).map Setting.int).or
    (((decimal? plain).map Setting.number).or ((markedInteger? plain).map Setting.int))

def resolve (word : String) : Setting :=
  match constants.lookup word with
  | some value => value
  | none =>
    match word.toList with
    | [] => .null
    | first :: rest =>
      if first = '.' then ((fraction? (first :: rest)).map .number).getD (.text word)
      else if first.isDigit || first = '+' || first = '-' then
        match moment? (first :: rest) with
        | some moment => .moment moment
        | none => (number? (first :: rest)).getD (.text word)
      else .text word

/-! ### Scalars -/

namespace Scalar

/-- The value that a word has if it is of a kind. An integer is also a number, unless it needs all
64 bits. -/
def valueAs? (word : String) : ScalarTag → Option Setting
  | .null => match resolve word with
    | .null => some .null
    | _ => none
  | .bool => match resolve word with
    | .bool value => some (.bool value)
    | _ => none
  | .int => match resolve word with
    | .int value => some (.int value)
    | _ => none
  | .number => match resolve word with
    | .number value => some (.number value)
    | .int value => if Number.fitsInt64 value then some (.number (Float.ofInt value)) else none
    | _ => none
  | .moment => match resolve word with
    | .moment value => some (.moment value)
    | _ => none
  | .binary => (Text.ofBase64? word).map .text
  | .text | .merge | .other => some (.text word)

def value? (scalar : Scalar) : Option Setting :=
  match scalar.tag with
  | some tag => valueAs? scalar.text tag
  | none => some (if scalar.plain then resolve scalar.text else .text scalar.text)

/-- The text of a scalar that is asked for a text: what is written, whatever it means. Null has
none, and what its tag does not allow is refused. -/
def text? (scalar : Scalar) : Option (Option String) :=
  match scalar.tag, scalar.value? with
  | _, none => none
  | _, some .null => some none
  | some .binary, some (.text value) => some (some value)
  | _, _ => some (some scalar.text)

def isText (scalar : Scalar) : Bool :=
  match scalar.tag with
  | some tag => tag == .text || tag == .merge
  | none => match scalar.value? with
    | some (.text _) => true
    | _ => false

/-- Whether the scalar, as a key, lends the entries of its value to the mapping around it. -/
def isMerge (scalar : Scalar) : Bool :=
  scalar.text == "<<" && (scalar.tag == some .merge || (scalar.tag.isNone && scalar.plain))

end Scalar

end QueryLint.Yaml
