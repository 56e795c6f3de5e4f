import QueryLint.Dialect.Basic
import QueryLint.Yaml.Layout
import QueryLint.Yaml.Scalar

/-!
The settings of a YAML document. The keys of the outermost mapping are the texts that are written.
The keys of a mapping inside of it have values if not all of them are texts: two spellings of one
number are one key, and the text of a key is the usual form of its value. A mapping can lend its
entries to another one, whose own entries have precedence. Where the places of what has names make
a document much larger than it is written, it is refused.
-/

namespace QueryLint.Yaml

/-! ### Keys -/

/-- Whether two values are the same key; values of different kinds never are. -/
def sameKey : Setting → Setting → Bool
  | .null, .null => true
  | .bool a, .bool b => a == b
  | .int a, .int b => a == b
  | .number a, .number b => a == b
  | .text a, .text b => a == b
  | .moment a, .moment b => a == b
  | _, _ => false

/-- The text of a key; lists and mappings are no keys. -/
def keyName? : Setting → Option String
  | .null => some "<nil>"
  | .bool value => some (if value then "true" else "false")
  | .int value => some (toString value)
  | .number value => some (Number.keyText value)
  | .text value => some value
  | .moment value => some (momentKey value)
  | .list _ | .map _ => none

abbrev Entries := List (Setting × Setting)

namespace Entries

def insert (entries : Entries) (key value : Setting) : Entries :=
  entries.filter (fun entry => !sameKey entry.1 key) ++ [(key, value)]

def settings (entries : Entries) : Settings :=
  entries.foldl (fun all (key, value) =>
    match keyName? key with
    | some name => setKey name value all
    | none => all) []

end Entries

namespace Node

def sameWriting : Node → Node → Bool
  | .scalar a, .scalar b => a.text == b.text
  | .reference a .., .reference b .. => a == b
  | .sequence _, .sequence _ => true
  | .mapping _, .mapping _ => true
  | _, _ => false

def repeatsKey : List (Node × Node) → Bool
  | [] => false
  | (key, _) :: rest => rest.any (fun entry => sameWriting key entry.1) || repeatsKey rest

def isMerge : Node → Bool
  | .scalar word => word.isMerge
  | _ => false

end Node

/-! ### Settings -/

/-- How many nodes have been visited, and how many of them in places of what has a name. -/
structure Visits where
  all : Nat := 0
  inPlaces : Nat := 0

/-- Whether a document is blown up: more than a hundred nodes stand in places of what has a name,
and their share is above 99 %. For more than 400,000 nodes the limit goes down, to 10 % for four
million. -/
def Visits.excessive (visits : Visits) : Bool :=
  100 < visits.inPlaces && 1000 < visits.all &&
    if visits.all ≤ 400000 then visits.all * 99 < visits.inPlaces * 100
    else if 4000000 ≤ visits.all then visits.all * 10 < visits.inPlaces * 100
    else visits.all * (99 * 3600000 - 89 * (visits.all - 400000)) < visits.inPlaces * 360000000

abbrev Visitor := StateT Visits Option

def visit (places : List Nat) : Visitor Unit := do
  let visits ← get
  let visits : Visits :=
    { all := visits.all + 1
      inPlaces := if places.isEmpty then visits.inPlaces else visits.inPlaces + 1 }
  if visits.excessive then failure else set visits

namespace Document

/-- What stands in a place; `places` are the places on the way, in none of which it may stand
again. -/
def target (document : Document) (places : List Nat) (target number : Nat) :
    Visitor (Node × List Nat) := do
  if places.contains number then failure
  match document.named.lookup target with
  | some node => return (node, number :: places)
  | none => failure

def isTextKey (document : Document) : Node → Bool
  | .scalar scalar => scalar.isText
  | .reference _ target _ => match document.named.lookup target with
    | some (.scalar scalar) => scalar.isText
    | _ => false
  | _ => false

def lenders? (document : Document) (node : Node) : Option (List Node) :=
  let isMapping : Node → Bool
    | .mapping _ => true
    | .reference _ target _ => match document.named.lookup target with
      | some (.mapping _) => true
      | _ => false
    | _ => false
  match node with
  | .sequence items => if items.all isMapping then some items else none
  | node => if isMapping node then some [node] else none

def textKey (document : Document) : Nat → List Nat → Node → Visitor (Option Setting)
  | 0, _, _ => failure
  | fuel + 1, places, node => do
    visit places
    match node with
    | .scalar scalar => return (← liftM scalar.text?).map .text
    | .reference _ target number =>
      let (node, places) ← document.target places target number
      textKey document fuel places node
    | _ => failure

mutual

def value (document : Document) : Nat → List Nat → Node → Visitor Setting
  | 0, _, _ => failure
  | fuel + 1, places, node => do
    visit places
    match node with
    | .scalar scalar => liftM scalar.value?
    | .sequence items => return .list (← items.mapM fun item => value document fuel places item)
    | .mapping entries =>
      let textKeys := entries.all fun entry => document.isTextKey entry.1
      let (found, _) ← fill document fuel places textKeys none [] entries
      return .map found.settings
    | .reference _ target number =>
      let (node, places) ← document.target places target number
      value document fuel places node

/-- Adds entries to a mapping, whose keys are texts or have values. Of lent entries only those are
added whose keys are not among `taken`. -/
def fill (document : Document) : Nat → List Nat → Bool → Option (List Setting) → Entries →
    List (Node × Node) → Visitor (Entries × Option (List Setting))
  | 0, _, _, _, _, _ => failure
  | fuel + 1, places, textKeys, taken, found, entries => do
    if Node.repeatsKey entries then failure
    let (found, taken) ← entries.foldlM (fun (found, taken) (key, item) => do
      if key.isMerge then return (found, taken)
      let name ← if textKeys then textKey document fuel places key
        else some <$> value document fuel places key
      match name with
      | none => return (found, taken)
      | some name =>
        if (keyName? name).isNone then failure
        if taken.any (·.any (sameKey name)) then return (found, taken)
        let setting ← value document fuel places item
        return (found.insert name setting, taken.map (name :: ·))) (found, taken)
    match entries.find? (·.1.isMerge) with
    | none => return (found, taken)
    | some (_, source) =>
      let own ← match taken with
        | some keys => pure keys
        | none => entries.mapM fun entry => value document fuel places entry.1
      let (found, keys) ← (← liftM (document.lenders? source)).foldlM
        (fun (found, keys) lender => lend document fuel places textKeys keys found lender)
        (found, own)
      return (found, taken.map fun _ => keys)

def lend (document : Document) : Nat → List Nat → Bool → List Setting → Entries → Node →
    Visitor (Entries × List Setting)
  | 0, _, _, _, _, _ => failure
  | fuel + 1, places, textKeys, taken, found, node => do
    visit places
    match node with
    | .mapping entries =>
      let (found, taken) ← fill document fuel places textKeys (some taken) found entries
      return (found, taken.getD [])
    | .reference _ target number =>
      let (node, places) ← document.target places target number
      lend document fuel places textKeys taken found node
    | _ => failure

end

def rootEntries (document : Document) (fuel : Nat) : Visitor Settings := do
  visit []
  visit []
  match document.root with
  | .mapping entries =>
    let (found, _) ← fill document fuel [] true none [] entries
    return found.settings
  | .scalar scalar => match scalar.value? with
    | some .null => return []
    | _ => failure
  | _ => failure

end Document

/-! ### Texts -/

/-- The document in a text, and how deep its structure can be. -/
def document? (text : String) : Option (Document × Nat) := do
  if !text.toList.all isAllowed then failure
  let tokens := tokens text
  let document ← Document.ofTokens? tokens
  return (document, 4 * (tokens.length + 2) * (tokens.length + 2))

def read? (text : String) : Option Setting := do
  let (document, depth) ← document? text
  (document.value depth [] document.root).run' {}

def readSettings? (text : String) : Option Settings := do
  let (document, depth) ← document? text
  (document.rootEntries depth).run' {}

end QueryLint.Yaml
