import QueryLint.Usage.Model

/-!
Scopes that are addressed by number. A scope names the scope around it when it is opened, so the
scopes around a scope all have smaller numbers.
-/

namespace QueryLint.Usage

structure ScopeEntry where
  parent : Option Nat
  scope : Scope := []
deriving DecidableEq, Repr, Inhabited

structure ScopeTable where
  entries : List ScopeEntry := []
deriving DecidableEq, Repr, Inhabited

namespace ScopeTable

/-- Opens a scope inside another one, or outermost; its number is the former size. -/
def push (table : ScopeTable) (parent : Option Nat) : ScopeTable :=
  ⟨table.entries ++ [{ parent := parent }]⟩

def size (table : ScopeTable) : Nat := table.entries.length

def parent? (table : ScopeTable) (id : Nat) : Option Nat := table.entries[id]?.bind (·.parent)

def bind (table : ScopeTable) (id : Nat) (aliasName : String) (target : Option Nat) : ScopeTable :=
  ⟨table.entries.modify id fun entry => { entry with scope := entry.scope.bind aliasName target }⟩

/-- The scopes around a place in a scope, innermost first. A parent that is not older than its
scope ends the chain. -/
def chain (table : ScopeTable) (id : Nat) : ScopeChain :=
  match table.entries[id]? with
  | none => []
  | some entry =>
    entry.scope :: match entry.parent with
      | some outer => if outer < id then chain table outer else []
      | none => []
termination_by id

end ScopeTable

end QueryLint.Usage
