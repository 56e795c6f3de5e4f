/-!
Dates in YAML documents, such as `2024-01-31`, with or without a time of day. A date is given in
one form, whatever form it is written in: `2024-01-31T00:00:00Z`.
-/

namespace QueryLint.Yaml

def digitsValue (digits : List Char) : Nat :=
  digits.foldl (fun value c => value * 10 + (c.toNat - 0x30)) 0

def shortNumber? (cs : List Char) : Option (Nat × List Char) :=
  let digits := (cs.take 2).takeWhile Char.isDigit
  if digits.isEmpty then none else some (digitsValue digits, cs.drop digits.length)

def markedNumber? (mark : Char) : List Char → Option (Nat × List Char)
  | c :: rest => if c = mark then shortNumber? rest else none
  | [] => none

def isLeapYear (year : Nat) : Bool := year % 4 == 0 && (year % 100 != 0 || year % 400 == 0)

def daysIn (year month : Nat) : Nat :=
  if month = 2 then if isLeapYear year then 29 else 28
  else if [4, 6, 9, 11].contains month then 30
  else 31

def twoDigits (value : Nat) : String := if value < 10 then "0" ++ toString value else toString value

def secondFraction (cs : List Char) : String × List Char :=
  match cs with
  | point :: rest =>
    let digits := rest.takeWhile Char.isDigit
    if (point = '.' || point = ',') && !digits.isEmpty then
      let kept := ((digits.take 9).reverse.dropWhile (· == '0')).reverse
      (if kept.isEmpty then "" else "." ++ String.ofList kept, rest.drop digits.length)
    else ("", cs)
  | [] => ("", cs)

def dayTime? (cs : List Char) : Option (String × List Char) := do
  let (hour, rest) ← shortNumber? cs
  let (minute, rest) ← markedNumber? ':' rest
  let (second, rest) ← markedNumber? ':' rest
  if 24 ≤ hour || 60 ≤ minute || 60 ≤ second then failure
  let (fraction, rest) := secondFraction rest
  return (twoDigits hour ++ ":" ++ twoDigits minute ++ ":" ++ twoDigits second ++ fraction, rest)

/-- How far the local time is ahead of or behind universal time: up to 24 hours and 60 minutes. -/
def timeZone? (cs : List Char) : Option String :=
  match cs with
  | ['Z'] => some "Z"
  | [sign, a, b, ':', c, d] =>
    let hours := digitsValue [a, b]
    let minutes := digitsValue [c, d]
    let total := hours * 60 + minutes
    if (sign = '+' || sign = '-') && [a, b, c, d].all Char.isDigit && hours ≤ 24 && minutes ≤ 60 then
      some (if total = 0 then "Z"
        else String.singleton sign ++ twoDigits (total / 60) ++ ":" ++ twoDigits (total % 60))
    else none
  | _ => none

def moment? (cs : List Char) : Option String := do
  let (year, rest) := cs.span Char.isDigit
  let (month, rest) ← markedNumber? '-' rest
  let (day, rest) ← markedNumber? '-' rest
  if year.length != 4 || month = 0 || 12 < month then failure
  if day = 0 || daysIn (digitsValue year) month < day then failure
  let date := String.ofList year ++ "-" ++ twoDigits month ++ "-" ++ twoDigits day ++ "T"
  match rest with
  | [] => return date ++ "00:00:00Z"
  | mark :: rest =>
    if mark = 'T' || mark = 't' then
      let (time, zone) ← dayTime? rest
      return date ++ time ++ (← timeZone? zone)
    else if mark = ' ' then
      let (time, after) ← dayTime? (rest.dropWhile (· == ' '))
      if after.isEmpty then return date ++ time ++ "Z" else failure
    else failure

/-- A moment as the key of a mapping, with its time zone in figures and by name. -/
def momentKey (moment : String) : String :=
  let spaced := moment.toList.map fun c => if c = 'T' then ' ' else c
  if spaced.getLast? = some 'Z' then String.ofList spaced.dropLast ++ " +0000 UTC"
  else
    let start := spaced.length - 6
    let zone := String.ofList ((spaced.drop start).filter (· != ':'))
    String.ofList (spaced.take start) ++ " " ++ zone ++ " " ++ zone

end QueryLint.Yaml
