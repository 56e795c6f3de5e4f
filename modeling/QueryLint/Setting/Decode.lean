import QueryLint.Number.Shortest
import QueryLint.Setting.Basic
import QueryLint.Text.Case

/-!
Reading settings. Scalars are converted to what is asked for where that is possible: numbers and
truth values have texts, texts can spell numbers and truth values, and a scalar is a list of one
item. An absent setting and a null leave the value that was there before. Field names are matched
without regard to letter case, the exact spelling first.
-/

namespace QueryLint

namespace Setting

def toText? (current : String) : Setting → Option String
  | .null => some current
  | .bool value => some (if value then "1" else "0")
  | .int value => some (toString value)
  | .number value => some (Number.plainText value)
  | .text value => some value
  | .moment _ | .list _ | .map _ => none

def toBool? (current : Bool) : Setting → Option Bool
  | .null => some current
  | .bool value => some value
  | .int value => some (value != 0)
  | .number value => some (Number.isNonzero value)
  | .text value => if value.isEmpty then some false else Number.readBool? value
  | .moment _ | .list _ | .map _ => none

def toInt? (current : Int) : Setting → Option Int
  | .null => some current
  | .bool value => some (if value then 1 else 0)
  | .int value => some value
  | .number value => some (Number.truncate value)
  | .text value => if value.isEmpty then some 0 else (Number.readInteger value).toOption
  | .moment _ | .list _ | .map _ => none

def toTexts? (current : List String) : Setting → Option (List String)
  | .null => some current
  | .list items => items.mapM (toText? "")
  | .map entries => if entries.isEmpty then some [] else none
  | scalar => (toText? "" scalar).map ([·])

/-! ### Reading without conversion -/

def exactText? : Setting → Option String
  | .text value => some value
  | _ => none

def exactBool? : Setting → Option Bool
  | .bool value => some value
  | _ => none

/-- The whole part of a setting that is a number. -/
def exactInt? : Setting → Option Int
  | .int value => some value
  | .number value => some (Number.truncate value)
  | _ => none

def exactTexts? : Setting → Option (List String)
  | .list items => some (items.filterMap exactText?)
  | _ => none

end Setting

namespace Settings

/-- A setting read without conversion, or a default. -/
def valueOr {α : Type} (settings : Settings) (read : Setting → Option α) (key : String)
    (default : α) : α :=
  ((settings.lookup key).bind read).getD default

/-- The key under which a field is given. -/
def keyOf? (settings : Settings) (name : String) : Option String :=
  if (settings.lookup name).isSome then some name
  else (settings.find? fun entry => Text.sameIgnoringCase entry.1 name).map (·.1)

/-- Decodes fields one after another and keeps what no field has used yet. -/
abbrev Decoder := StateT Settings Option

/-- Takes one field, which keeps its current value if it is not given. -/
def take {α : Type} (read : α → Setting → Option α) (name : String) (current : α) : Decoder α := do
  let settings ← get
  match keyOf? settings name with
  | none => return current
  | some key =>
    set (settings.filter (·.1 != key))
    match settings.lookup key with
    | none => return current
    | some setting => liftM (read current setting)

/-- Refuses settings that no field has used. -/
def finish : Decoder Unit := do
  if !(← get).isEmpty then failure

def decode? {α : Type} (settings : Settings) (decoder : Decoder α) : Option α :=
  (decoder.run settings).map (·.1)

end Settings

end QueryLint
