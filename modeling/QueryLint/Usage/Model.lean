import QueryLint.Syntax.Tree

/-!
The named queries of a statement and which of their columns something reads. Definitions are kept
in the order in which they were made and are addressed by their place in that order. A name that
is defined again refers to its latest definition; the earlier one keeps its columns.

A scope lists what the sources of one block are called. A name in a query is looked for in the
innermost scope first. Names are compared by their folding throughout.
-/

namespace QueryLint.Usage

structure Column where
  name : String
  span : Span := {}
  /-- Whether something reads the column. -/
  used : Bool := false
  /-- Whether a star passed the column on from a source. -/
  mirrored : Bool := false
  /-- Whether the query gives the column no name of its own. -/
  anonymous : Bool := false
deriving DecidableEq, Repr, Inhabited

namespace Column

def key (column : Column) : String := Text.fold column.name

/-- Whether the column is reported when nothing reads it. -/
def reportable (column : Column) : Bool := !column.mirrored && !column.anonymous

def markUsed (column : Column) : Column := { column with used := true }

def violates (column : Column) : Bool := !column.used && column.reportable

end Column

structure Definition where
  name : String
  nameSpan : Span := {}
  columns : List Column := []
deriving DecidableEq, Repr, Inhabited

structure Model where
  definitions : List Definition := []
  /-- Which definition a folded name refers to. -/
  latest : List (String × Nat) := []
deriving DecidableEq, Repr, Inhabited

/-- What a name in a scope stands for: a definition, or a source whose columns are not known. -/
structure Binding where
  aliasName : String
  target : Option Nat
deriving DecidableEq, Repr, Inhabited

abbrev Scope := List Binding

/-- Scopes around a place in a query, innermost first. -/
abbrev ScopeChain := List Scope

namespace Scope

/-- Binds a folded name; a name that is bound already gets the new target. -/
def bindKey (key : String) (target : Option Nat) : Scope → Scope
  | [] => [⟨key, target⟩]
  | binding :: rest =>
    if binding.aliasName = key then ⟨key, target⟩ :: rest else binding :: bindKey key target rest

/-- Binds a name; the empty name binds nothing. -/
def bind (scope : Scope) (aliasName : String) (target : Option Nat) : Scope :=
  if aliasName.isEmpty then scope else bindKey (Text.fold aliasName) target scope

def targets (scope : Scope) : List Nat := scope.filterMap (·.target)

def find? (scope : Scope) (key : String) : Option (Option Nat) :=
  (List.find? (fun binding => binding.aliasName = key) scope).map (·.target)

end Scope

namespace ScopeChain

/-- What an alias stands for: `none` if it is not bound, `some none` if it is bound to a source
whose columns are not known. -/
def resolve (chain : ScopeChain) (aliasName : String) : Option (Option Nat) :=
  chain.findSome? (·.find? (Text.fold aliasName))

end ScopeChain

namespace Model

def register (model : Model) (definition : Definition) : Model where
  definitions := model.definitions ++ [definition]
  latest := setKey (Text.fold definition.name) model.definitions.length model.latest

def lookup (model : Model) (name : String) : Option Nat := model.latest.lookup (Text.fold name)

/-- What names refer to, each folded name once; `none` for a name that refers to nothing. -/
def saveNames (model : Model) (names : List String) : List (String × Option Nat) :=
  (names.map Text.fold).eraseDups.map fun key => (key, model.latest.lookup key)

def restoreName (latest : List (String × Nat)) : String × Option Nat → List (String × Nat)
  | (key, some id) => setKey key id latest
  | (key, none) => latest.filter fun entry => entry.1 != key

/-- Lets saved names refer to what they did. The definitions stay. -/
def restoreNames (model : Model) (saved : List (String × Option Nat)) : Model :=
  { model with latest := saved.foldl restoreName model.latest }

def columns (model : Model) (id : Nat) : List Column :=
  (model.definitions[id]?.map (·.columns)).getD []

/-! ### Marking columns -/

def markWhere (model : Model) (id : Nat) (selected : Column → Bool) : Model :=
  { model with
    definitions := model.definitions.modify id fun definition =>
      { definition with
        columns := definition.columns.map fun column =>
          if selected column then column.markUsed else column } }

def markKey (model : Model) (key : String) (id : Nat) : Model :=
  model.markWhere id (·.key == key)

def markWhole (model : Model) (id : Nat) : Model := model.markWhere id fun _ => true

def markAll (model : Model) (scope : Scope) : Model := scope.targets.foldl markWhole model

def hasKey (model : Model) (key : String) (id : Nat) : Bool :=
  (model.columns id).any (·.key == key)

/-- Resolves a name without a qualifier. In the innermost scope where a definition has such a
column, or where the name is bound to a definition, all matching columns are marked, or else the
whole row of that definition. -/
def markBare (model : Model) (key : String) : ScopeChain → Model
  | [] => model
  | scope :: outer =>
    if scope.targets.any (model.hasKey key) then scope.targets.foldl (·.markKey key ·) model
    else match scope.find? key with
      | some (some id) => model.markWhole id
      | _ => model.markBare key outer

/-- Resolves a column reference. A qualifier that is no alias is a column with fields. -/
def markRef (model : Model) (chain : ScopeChain) (ref : ColumnRef) : Model :=
  if ref.table.isEmpty then model.markBare (Text.fold ref.column) chain
  else match chain.resolve ref.table with
    | some (some id) => model.markKey (Text.fold ref.column) id
    | some none => model
    | none => model.markBare (Text.fold ref.table) chain

/-! ### Stars -/

def excepted (modifiers : List StarModifier) : List String :=
  modifiers.flatMap fun
    | .except columns => columns.map Text.fold
    | .replace _ => []

def replaced (modifiers : List StarModifier) : List String :=
  modifiers.flatMap fun
    | .except _ => []
    | .replace items => items.map fun item => Text.fold item.name

/-- The definitions that a star reads: those bound in the innermost scope, or the one that its
qualifier stands for. -/
def starSources (chain : ScopeChain) (table : String) : List Nat :=
  if table.isEmpty then (chain.headD []).targets
  else ((chain.resolve table).bind id).toList

/-- Passes the columns of the sources on, except those left out, and marks those that keep their
value. -/
def expandStar (model : Model) (chain : ScopeChain) (table : String) (span : Span)
    (modifiers : List StarModifier) : Model × List Column :=
  let out := excepted modifiers
  let new := replaced modifiers
  let sources := starSources chain table
  let marked := sources.foldl (fun model id =>
    model.markWhere id fun column => !out.contains column.key && !new.contains column.key) model
  let columns := sources.flatMap fun id =>
    ((model.columns id).filter fun column => !out.contains column.key).map fun column =>
      { name := column.name, span, mirrored := true : Column }
  (marked, columns)

end Model

structure Violation where
  definition : String
  column : String
  span : Span
deriving DecidableEq, Repr, Inhabited

namespace Violation

def message (violation : Violation) : String := "Unused column: " ++ violation.column

end Violation

/-- The columns to report, by definition and then in the order of the columns. -/
def Model.violations (model : Model) : List Violation :=
  model.definitions.flatMap fun definition =>
    (definition.columns.filter Column.violates).map fun column =>
      ⟨definition.name, column.name, column.span⟩

end QueryLint.Usage
