import QueryLint.Text.Blank

/-!
One record of fields between commas. A field that begins with a quote ends at the next quote that
is not doubled, and may hold commas and line ends; in other fields a quote is an error. Empty lines
before the record are skipped, and what follows its line is not read. Places in messages count
bytes from one.
-/

namespace QueryLint.Text.Record

/-- Where something is wrong, and in which line the record began. -/
structure Place where
  start : Nat
  line : Nat
  column : Nat
deriving DecidableEq, Repr, Inhabited

inductive Fault where
  /-- There is no record. -/
  | absent
  | bareQuote (place : Place)
  | badQuote (place : Place)
deriving DecidableEq, Repr, Inhabited

def Place.render (place : Place) : String :=
  (if place.start = place.line then "" else "record on line " ++ toString place.start ++ "; ") ++
    "parse error on line " ++ toString place.line ++ ", column " ++ toString place.column

def Fault.message : Fault → String
  | .absent => "EOF"
  | .bareQuote place => place.render ++ ": bare \" in non-quoted field"
  | .badQuote place => place.render ++ ": extraneous or missing \" in quoted-field"

inductive Mode where
  /-- Nothing of a field yet. -/
  | opening
  | plain
  | quoted
  /-- After a quote inside a quoted field. -/
  | closing
deriving DecidableEq, Repr

/-- How far reading has come; what has been read is in reverse. -/
structure State where
  place : Place
  before : List String := []
  field : List Char := []
  mode : Mode := .opening
deriving Repr

namespace State

def pass (state : State) (c : Char) (mode : Mode) : State :=
  { state with place := { state.place with column := state.place.column + c.utf8Size }, mode }

def keep (state : State) (c : Char) (mode : Mode) : State :=
  { state.pass c mode with field := c :: state.field }

def fields (state : State) : List String :=
  (String.ofList state.field.reverse :: state.before).reverse

def separate (state : State) : State :=
  { state.pass ',' .opening with before := String.ofList state.field.reverse :: state.before
                                 field := [] }

def nextLine (state : State) : State :=
  { state with place := { state.place with line := state.place.line + 1, column := 1 } }

def step (state : State) (c : Char) (last : Bool) : Except Fault (Option State) :=
  match state.mode with
  | .opening | .plain =>
    if c = '"' then
      if state.mode = .opening then .ok (state.pass c .quoted)
      else .error (.bareQuote state.place)
    else if c = '\n' then .ok none
    else if c = ',' then .ok state.separate
    else .ok (state.keep c .plain)
  | .quoted =>
    if c = '"' then .ok (state.pass c .closing)
    else if c = '\n' && !last then .ok (state.keep c .quoted).nextLine
    else .ok (state.keep c .quoted)
  | .closing =>
    if c = '"' then .ok (state.keep c .quoted)
    else if c = '\n' then .ok none
    else if c = ',' then .ok state.separate
    else .error (.badQuote { state.place with column := state.place.column - 1 })

def read (state : State) : List Char → Except Fault (List String)
  | [] => if state.mode = .quoted then .error (.badQuote state.place) else .ok state.fields
  | c :: rest =>
    match state.step c rest.isEmpty with
    | .error fault => .error fault
    | .ok none => .ok state.fields
    | .ok (some next) => next.read rest

end State

/-- Line ends as single characters; a carriage return at the very end is dropped. -/
def plainLines (text : String) : List Char :=
  match (replaceAll "\r\n" "\n" text).toList.reverse with
  | '\r' :: before => before.reverse
  | cs => cs.reverse

def read (text : String) : Except Fault (List String) :=
  let (empty, cs) := (plainLines text).span (· == '\n')
  if cs.isEmpty then .error .absent
  else
    let line := empty.length + 1
    State.read { place := ⟨line, line, 1⟩ } cs

end QueryLint.Text.Record
