import QueryLint.Lint.Baseline

/-!
What is kept from one run to the next: the runs that were made and the baseline. A store that is
not open refuses everything.
-/

namespace QueryLint

structure Run where
  id : String
  startedAt : String
  completedAt : Option String := none
  files : Int
  issues : Int := 0
deriving DecidableEq, Repr, Inhabited

/-- Runs and accepted findings, each in the order in which they were recorded. -/
structure Store where
  runs : List Run := []
  entries : List BaselineEntry := []
deriving DecidableEq, Repr, Inhabited

inductive StoreError where
  | notOpen
  | runNotFound (id : String)
deriving DecidableEq, Repr, Inhabited

namespace StoreError

def message : StoreError → String
  | .notOpen => "database not opened"
  | .runNotFound id => "run not found: " ++ id

end StoreError

namespace Store

def version : Int := 1

def createRun (store : Store) (id time : String) (files : Int) : Store :=
  { store with runs := store.runs ++ [{ id, startedAt := time, files }] }

def completeRun (store : Store) (id time : String) (issues : Int) : Except StoreError Store :=
  if store.runs.any (·.id == id) then
    .ok { store with
      runs := store.runs.map fun run =>
        if run.id == id then { run with completedAt := some time, issues } else run }
  else .error (.runNotFound id)

/-- The latest runs, newest first; a negative limit is none. -/
def latestRuns (store : Store) (limit : Int) : List Run :=
  if limit < 0 then store.runs.reverse else store.runs.reverse.take limit.toNat

def replaceBaseline (store : Store) (entries : List BaselineEntry) : Store :=
  { store with entries }

def baseline (store : Store) : List BaselineEntry := BaselineEntry.sort store.entries

end Store

/-- A store that may be open. -/
structure Connection where
  store : Option Store := none
deriving DecidableEq, Repr, Inhabited

namespace Connection

def openFresh : Connection := ⟨some {}⟩

def get (connection : Connection) : Except StoreError Store :=
  match connection.store with
  | some store => .ok store
  | none => .error .notOpen

def set (store : Store) : Connection := ⟨some store⟩

/-- Closes the store; what only it held is gone. -/
def close : Connection := {}

end Connection

end QueryLint
