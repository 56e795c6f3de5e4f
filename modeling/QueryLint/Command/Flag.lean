import QueryLint.Number.Integer
import QueryLint.Setting.Basic
import QueryLint.Text.Quoted
import QueryLint.Text.Record
import QueryLint.Text.Utf8

/-!
Flags of commands. A flag has a long name after two dashes and may have a letter after one; its
value follows after an equals sign or in the next argument. Flags for truth values need no value,
and letters can be joined. Flags and other arguments may be mixed until two dashes stand alone.
-/

namespace QueryLint

inductive FlagKind where
  | text
  | truth
  | integer
  /-- Texts between commas; the flag may be given several times. -/
  | texts
deriving DecidableEq, Repr, Inhabited

structure Flag where
  name : String
  letter : Option Char := none
  kind : FlagKind
  /-- The setting that the flag is for, if it is about the configuration. -/
  setting : Option String := none
deriving DecidableEq, Repr, Inhabited

inductive FlagValue where
  | text (value : String)
  | truth (value : Bool)
  | integer (value : Int)
  | texts (values : List String)
deriving DecidableEq, Repr, Inhabited

inductive ValueFault where
  | truth (value : String)
  | integer (value : String) (fault : Number.IntegerFault)
  | texts (fault : Text.Record.Fault)
deriving DecidableEq, Repr, Inhabited

/-- Why flags are refused. Letters are told with the letters that are joined to them. -/
inductive FlagError where
  | unknown (name : String)
  | unknownLetter (letter : Char) (joined : String)
  | badSyntax (argument : String)
  | valueMissing (name : String)
  | letterValueMissing (letter : Char) (joined : String)
  | badValue (flag : Flag) (value : String) (fault : ValueFault)
  /-- Help is asked for where no flag for it exists. -/
  | helpRequested
deriving DecidableEq, Repr, Inhabited

namespace ValueFault

def message : ValueFault → String
  | .truth value => "strconv.ParseBool: parsing " ++ Text.quoted value ++ ": invalid syntax"
  | .integer value fault =>
    "strconv.ParseInt: parsing " ++ Text.quoted value ++ ": " ++ fault.message
  | .texts fault => fault.message

end ValueFault

def Flag.title (flag : Flag) : String :=
  match flag.letter with
  | some letter => "-" ++ String.singleton letter ++ ", --" ++ flag.name
  | none => "--" ++ flag.name

def Flag.isSwitch (flag : Flag) : Bool := flag.kind = .truth

namespace FlagError

def message : FlagError → String
  | .unknown name => "unknown flag: --" ++ name
  | .unknownLetter letter joined =>
    "unknown shorthand flag: " ++ Text.quotedChar letter ++ " in -" ++ joined
  | .badSyntax argument => "bad flag syntax: " ++ argument
  | .valueMissing name => "flag needs an argument: --" ++ name
  | .letterValueMissing letter joined =>
    "flag needs an argument: " ++ Text.quotedChar letter ++ " in -" ++ joined
  | .badValue flag value fault => "invalid argument " ++ Text.quoted value ++ " for " ++
      Text.quoted flag.title ++ " flag: " ++ fault.message
  | .helpRequested => "pflag: help requested"

end FlagError

structure Arguments where
  values : List (Flag × FlagValue) := []
  words : List String := []
deriving DecidableEq, Repr, Inhabited

namespace Arguments

def get? (arguments : Arguments) (name : String) : Option FlagValue :=
  (arguments.values.find? (·.1.name == name)).map (·.2)

def text (arguments : Arguments) (name : String) : String :=
  match arguments.get? name with
  | some (.text value) => value
  | _ => ""

def truth (arguments : Arguments) (name : String) : Bool :=
  arguments.get? name = some (.truth true)

def integer (arguments : Arguments) (name : String) (default : Int) : Int :=
  match arguments.get? name with
  | some (.integer value) => value
  | _ => default

def texts (arguments : Arguments) (name : String) : List String :=
  match arguments.get? name with
  | some (.texts values) => values
  | _ => []

def settings (arguments : Arguments) : Settings :=
  arguments.values.filterMap fun (flag, value) => flag.setting.map fun key =>
    (key, match value with
      | .text value => .text value
      | .truth value => .bool value
      | .integer value => .int value
      | .texts values => .list (values.map .text))

def note (arguments : Arguments) (flag : Flag) (value : FlagValue) : Arguments :=
  { arguments with
    values := arguments.values.filter (·.1.name != flag.name) ++ [(flag, value)] }

def set (arguments : Arguments) (flag : Flag) (text : String) : Except FlagError Arguments :=
  match flag.kind with
  | .text => .ok (arguments.note flag (.text text))
  | .truth =>
    match Number.readBool? text with
    | some value => .ok (arguments.note flag (.truth value))
    | none => .error (.badValue flag text (.truth text))
  | .integer =>
    match Number.readInteger text with
    | .ok value => .ok (arguments.note flag (.integer value))
    | .error fault => .error (.badValue flag text (.integer text fault))
  | .texts =>
    if text.isEmpty then .ok (arguments.note flag (.texts (arguments.texts flag.name)))
    else match Text.Record.read text with
      | .ok fields => .ok (arguments.note flag (.texts (arguments.texts flag.name ++ fields)))
      | .error fault => .error (.badValue flag text (.texts fault))

end Arguments

namespace Flag

def find? (flags : List Flag) (name : String) : Option Flag := flags.find? (·.name == name)

def findLetter? (flags : List Flag) (letter : Char) : Option Flag :=
  flags.find? (·.letter == some letter)

/-- A flag that waits for its value, with the error if none comes. -/
structure Waiting where
  flag : Flag
  missing : FlagError

def splitValue (cs : List Char) : String × Option String :=
  let (name, rest) := cs.span (· != '=')
  (String.ofList name, match rest with
    | _ :: value => some (String.ofList value)
    | [] => none)

def readLong (flags : List Flag) (arguments : Arguments) (cs : List Char) :
    Except FlagError (Arguments × Option Waiting) :=
  let (name, value) := splitValue cs
  if name.isEmpty || Text.startsWith "-" name then
    .error (.badSyntax ("--" ++ String.ofList cs))
  else match find? flags name, value with
    | none, _ => .error (if name == "help" then .helpRequested else .unknown name)
    | some flag, some value => return (← arguments.set flag value, none)
    | some flag, none =>
      if flag.isSwitch then return (← arguments.set flag "true", none)
      else .ok (arguments, some ⟨flag, .valueMissing name⟩)

def firstByte (c : Char) : Char :=
  match Text.encode (String.singleton c) with
  | byte :: _ => Char.ofNat byte.toNat
  | [] => c

def readLetters (flags : List Flag) (arguments : Arguments) :
    List Char → Except FlagError (Arguments × Option Waiting)
  | [] => .ok (arguments, none)
  | letter :: rest =>
    if (Text.stripStart? "test.".toList (letter :: rest)).isSome then .ok (arguments, none)
    else
      let joined := String.ofList (letter :: rest)
      match findLetter? flags letter, rest with
      | none, _ =>
        .error (if letter = 'h' then .helpRequested else .unknownLetter (firstByte letter) joined)
      | some flag, '=' :: first :: more =>
        return (← arguments.set flag (String.ofList (first :: more)), none)
      | some flag, [] =>
        if flag.isSwitch then return (← arguments.set flag "true", none)
        else .ok (arguments, some ⟨flag, .letterValueMissing letter joined⟩)
      | some flag, _ =>
        if flag.isSwitch then
          match arguments.set flag "true" with
          | .ok next => readLetters flags next rest
          | .error error => .error error
        else return (← arguments.set flag (String.ofList rest), none)

def readAll (flags : List Flag) : Arguments → Option Waiting → List String →
    Except FlagError Arguments
  | _, some waiting, [] => .error waiting.missing
  | arguments, none, [] => .ok arguments
  | arguments, some waiting, value :: rest =>
    match arguments.set waiting.flag value with
    | .ok next => readAll flags next none rest
    | .error error => .error error
  | arguments, none, argument :: rest =>
    match argument.toList with
    | ['-', '-'] => .ok { arguments with words := arguments.words ++ rest }
    | '-' :: '-' :: name =>
      match readLong flags arguments name with
      | .ok (next, waiting) => readAll flags next waiting rest
      | .error error => .error error
    | '-' :: letter :: more =>
      match readLetters flags arguments (letter :: more) with
      | .ok (next, waiting) => readAll flags next waiting rest
      | .error error => .error error
    | _ => readAll flags { arguments with words := arguments.words ++ [argument] } none rest

def read (flags : List Flag) (arguments : List String) : Except FlagError Arguments :=
  readAll flags {} none arguments

/-! ### Looking for words -/

/-- Whether the next argument is taken as the value of a flag. A flag that is not known is supposed
to have one. -/
def takesNext (flags : List Flag) (argument : String) : Bool :=
  match argument.toList with
  | '-' :: '-' :: name =>
    !name.contains '=' && !((find? flags (String.ofList name)).any isSwitch)
  | ['-', letter] =>
    letter != '=' && letter.toNat < 0x80 && !((findLetter? flags letter).any isSwitch)
  | _ => false

/-- The arguments that are neither flags nor their values. A flag before the last argument or at
the end hides what follows. -/
def words (flags : List Flag) : List String → List String
  | [] => []
  | argument :: rest =>
    if argument == "--" then []
    else if takesNext flags argument then
      match rest with
      | [] => []
      | _ :: more => if more.isEmpty then [] else words flags more
    else if argument.isEmpty || Text.startsWith "-" argument then words flags rest
    else argument :: words flags rest

def dropWord (flags : List Flag) (word : String) : List String → List String
  | [] => []
  | argument :: rest =>
    if argument == "--" then argument :: rest
    else if takesNext flags argument then
      match rest with
      | [] => [argument]
      | value :: more => argument :: value :: dropWord flags word more
    else if argument == word then rest
    else argument :: dropWord flags word rest

end Flag

end QueryLint
