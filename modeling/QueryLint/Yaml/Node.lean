import QueryLint.Text.Blank
import QueryLint.Yaml.Token

/-!
The structure of a YAML document: scalars, sequences and mappings. What is given a name can stand
in several places, also inside of itself; such a place holds the number of what is meant. Of a text
with several documents only the first is read.
-/

namespace QueryLint.Yaml

inductive ScalarTag where
  | null
  | bool
  | int
  | number
  | text
  | moment
  | binary
  | merge
  /-- A tag without a meaning here. -/
  | other
deriving DecidableEq, Repr

namespace ScalarTag

def commonStart : String := "tag:yaml.org,2002:"

def commonNames : List (String × ScalarTag) :=
  [("null", .null), ("bool", .bool), ("int", .int), ("float", .number), ("str", .text),
    ("timestamp", .moment), ("binary", .binary), ("merge", .merge)]

/-- What a tag says. A lone exclamation mark says nothing. -/
def ofText (tag : String) : Option ScalarTag :=
  if tag.isEmpty || tag = "!" then none
  else
    let name := (Text.afterStart? commonStart tag).or (Text.afterStart? "!!" tag)
    some ((name.bind fun name => commonNames.lookup name).getD .other)

end ScalarTag

structure Scalar where
  text : String
  /-- Whether it is written without quotes or marks. -/
  plain : Bool
  tag : Option ScalarTag := none
deriving DecidableEq, Repr

inductive Node where
  | scalar (scalar : Scalar)
  | sequence (items : List Node)
  | mapping (entries : List (Node × Node))
  /-- A place, with a number of its own, where what has a name stands once more. -/
  | reference (name : String) (target number : Nat)
deriving Inhabited

structure Document where
  root : Node
  named : List (Nat × Node) := []
deriving Inhabited

namespace Node

def absent (tag : Option ScalarTag) : Node := .scalar { text := "", plain := true, tag }

/-! ### Reading -/

structure Source where
  tokens : List Token
  handles : List (String × String)
  /-- The numbers that names stand for, the latest first. -/
  names : List (String × Nat) := []
  named : List (Nat × Node) := []
  /-- The next number. -/
  fresh : Nat := 0

abbrev Reader := StateT Source Option

/-- The next token; to look beyond the last one fails. -/
def peek : Reader Token := do
  match (← get).tokens with
  | [] => failure
  | token :: _ => return token

def advance : Reader Unit := modify fun source => { source with tokens := source.tokens.drop 1 }

def number : Reader Nat := do
  let source ← get
  set { source with fresh := source.fresh + 1 }
  return source.fresh

def tagOf (handle suffix : String) : Reader String := do
  if handle.isEmpty then return suffix
  match (← get).handles.lookup handle with
  | some start => return start ++ suffix
  | none => failure

def readName? : Reader (Option String) := do
  match ← peek with
  | .anchor name => advance; return some name
  | _ => return none

def readTag? : Reader (Option (String × String)) := do
  match ← peek with
  | .tag handle suffix => advance; return some (handle, suffix)
  | _ => return none

def readProperties : Reader (Option String × Option String) := do
  let first ← readName?
  let tag ← readTag?
  let name ← if first.isNone && tag.isSome then readName? else pure first
  let _ ← peek
  let tag ← tag.mapM fun (handle, suffix) => tagOf handle suffix
  return (name, tag)

def giveName (name : Option String) : Reader (Option Nat) :=
  name.mapM fun name => do
    let number ← number
    modify fun source => { source with names := (name, number) :: source.names }
    return number

/-- A place where a name stands for what it was given to last. -/
def referTo (name : String) : Reader Node := do
  match (← get).names.lookup name with
  | some target => return .reference name target (← number)
  | none => failure

mutual

/-- A node. Only where `block` holds it may be a block, and only where `flat` holds the items of a
sequence may follow without a block of their own. -/
def read : Nat → Bool → Bool → Reader Node
  | 0, _, _ => failure
  | fuel + 1, block, flat => do
    match ← peek with
    | .reference name => advance; referTo name
    | _ =>
      let (name, tag) ← readProperties
      let number ← giveName name
      let found ← content fuel block flat (name.isSome || tag.isSome) (tag.bind ScalarTag.ofText)
      match number with
      | none => return found
      | some number =>
        modify fun source => { source with named := (number, found) :: source.named }
        return found

/-- What follows a name and a tag; after one of them nothing has to follow. -/
def content : Nat → Bool → Bool → Bool → Option ScalarTag → Reader Node
  | 0, _, _, _, _ => failure
  | fuel + 1, block, flat, optional, tag => do
    match ← peek with
    | .scalar text plain => advance; return .scalar { text, plain, tag }
    | .sequenceOpen => advance; flowItems fuel true []
    | .mappingOpen => advance; flowEntries fuel true []
    | .item =>
      if flat then flatItems fuel []
      else if optional then return absent tag else failure
    | .sequenceBlock =>
      if block then do advance; blockItems fuel []
      else if optional then return absent tag else failure
    | .mappingBlock =>
      if block then do advance; blockEntries fuel []
      else if optional then return absent tag else failure
    | _ => if optional then return absent tag else failure

def readUnless : Nat → Bool → Bool → List Token → Reader Node
  | 0, _, _, _ => failure
  | fuel + 1, block, flat, stops => do
    if stops.contains (← peek) then return absent none else read fuel block flat

/-- The items of a sequence with a block of its own; `before` has those before, in reverse. -/
def blockItems : Nat → List Node → Reader Node
  | 0, _ => failure
  | fuel + 1, before => do
    match ← peek with
    | .item =>
      advance
      let item ← readUnless fuel true false [.item, .blockEnd]
      blockItems fuel (item :: before)
    | .blockEnd => advance; return .sequence before.reverse
    | _ => failure

def flatItems : Nat → List Node → Reader Node
  | 0, _ => failure
  | fuel + 1, before => do
    match ← peek with
    | .item =>
      advance
      let item ← readUnless fuel true false [.item, .key, .value, .blockEnd]
      flatItems fuel (item :: before)
    | _ => return .sequence before.reverse

def valueUnless : Nat → Bool → List Token → Reader Node
  | 0, _, _ => failure
  | fuel + 1, block, stops => do
    match ← peek with
    | .value => advance; readUnless fuel block block stops
    | _ => return absent none

def blockEntries : Nat → List (Node × Node) → Reader Node
  | 0, _ => failure
  | fuel + 1, before => do
    match ← peek with
    | .key =>
      advance
      let key ← readUnless fuel true true [.key, .value, .blockEnd]
      let value ← valueUnless fuel true [.key, .value, .blockEnd]
      blockEntries fuel ((key, value) :: before)
    | .blockEnd => advance; return .mapping before.reverse
    | _ => failure

/-- The items of a sequence between brackets, with commas between them; a comma may stand before
the closing bracket. -/
def flowItems : Nat → Bool → List Node → Reader Node
  | 0, _, _ => failure
  | fuel + 1, first, before => do
    if (← peek) == .sequenceClose then do advance; return .sequence before.reverse
    if !first then
      if (← peek) == .comma then advance else failure
    match ← peek with
    | .sequenceClose => advance; return .sequence before.reverse
    | .key => do
      advance
      let pair ← flowPair fuel
      flowItems fuel false (pair :: before)
    | _ =>
      let item ← read fuel false false
      flowItems fuel false (item :: before)

/-- A mapping with one entry in a sequence between brackets. Where its key is missing, the token
that comes instead belongs to it. -/
def flowPair : Nat → Reader Node
  | 0 => failure
  | fuel + 1 => do
    let missing := [Token.value, .comma, .sequenceClose].contains (← peek)
    let key ← if missing then do advance; pure (absent none) else read fuel false false
    let value ← valueUnless fuel false [.comma, .sequenceClose]
    return .mapping [(key, value)]

def flowEntries : Nat → Bool → List (Node × Node) → Reader Node
  | 0, _, _ => failure
  | fuel + 1, first, before => do
    if (← peek) == .mappingClose then do advance; return .mapping before.reverse
    if !first then
      if (← peek) == .comma then advance else failure
    match ← peek with
    | .mappingClose => advance; return .mapping before.reverse
    | .key => do
      advance
      let key ← readUnless fuel false false [.value, .comma, .mappingClose]
      let value ← valueUnless fuel false [.comma, .mappingClose]
      flowEntries fuel false ((key, value) :: before)
    | _ =>
      let key ← read fuel false false
      flowEntries fuel false ((key, absent none) :: before)

end

end Node

namespace Document

open Yaml.Node

def commonHandles : List (String × String) := [("!", "!"), ("!!", ScalarTag.commonStart)]

/-- Reads directives: the version, which is 1.1, at most once, and handles of tags, each of them
once. -/
def readDirectives : Nat → Bool → List (String × String) → Reader (List (String × String))
  | 0, _, _ => failure
  | fuel + 1, versioned, handles => do
    match ← peek with
    | .version major minor =>
      if versioned || major != 1 || minor != 1 then failure
      advance
      readDirectives fuel true handles
    | .tagHandle handle start =>
      if (handles.lookup handle).isSome then failure
      advance
      readDirectives fuel versioned ((handle, start) :: handles)
    | _ => return handles

/-- Reads what stands before a document, if it has a beginning that is marked. -/
def readStart (fuel : Nat) : Reader Unit := do
  let handles ← readDirectives fuel false []
  if (← peek) == .documentStart then advance else failure
  modify fun source => { source with handles := handles ++ commonHandles }

def readRoot (fuel : Nat) : Reader (Option Node) := do
  let token ← peek
  if token == .streamEnd then return none
  if token.isDirective || token == .documentStart then
    readStart fuel
    if (← peek).isBoundary then return some (absent none)
  let root ← read fuel true false
  let _ ← peek
  return some root

def ofTokens? (tokens : List Token) : Option Document := do
  let (root, source) ←
    (readRoot (4 * tokens.length + 8)).run { tokens, handles := commonHandles }
  return { root := root.getD (absent none), named := source.named }

end Document

end QueryLint.Yaml
