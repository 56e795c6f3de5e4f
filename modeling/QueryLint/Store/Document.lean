import QueryLint.Setting.Decode
import QueryLint.Store.Basic

/-!
Stores as documents, so that they can be kept in files.
-/

namespace QueryLint

namespace Run

def document (run : Run) : Setting :=
  .map ([("id", .text run.id), ("started_at", .text run.startedAt)] ++
    (run.completedAt.toList.map fun time => ("completed_at", .text time)) ++
    [("files", .int run.files), ("issues", .int run.issues)])

def ofDocument? : Setting → Option Run
  | .map entries => do
    let text (key : String) : Option String := (entries.lookup key).bind Setting.exactText?
    let number (key : String) : Option Int := (entries.lookup key).bind Setting.exactInt?
    return { id := ← text "id", startedAt := ← text "started_at",
             completedAt := text "completed_at", files := ← number "files",
             issues := ← number "issues" }
  | _ => none

end Run

namespace BaselineEntry

def document (entry : BaselineEntry) : Setting :=
  .map [("path", .text entry.path), ("rule_id", .text entry.rule), ("message", .text entry.message),
    ("line", .int entry.line), ("column", .int entry.column)]

def ofDocument? : Setting → Option BaselineEntry
  | .map entries => do
    let text (key : String) : Option String := (entries.lookup key).bind Setting.exactText?
    let number (key : String) : Option Int := (entries.lookup key).bind Setting.exactInt?
    return ⟨← text "path", ← text "rule_id", ← text "message", ← number "line", ← number "column"⟩
  | _ => none

end BaselineEntry

namespace Store

def document (store : Store) : Setting :=
  .map [("runs", .list (store.runs.map Run.document)),
    ("baseline", .list (store.entries.map BaselineEntry.document))]

def ofDocument? : Setting → Option Store
  | .map [("runs", .list runs), ("baseline", .list entries)] => do
    return ⟨← runs.mapM Run.ofDocument?, ← entries.mapM BaselineEntry.ofDocument?⟩
  | _ => none

end Store

end QueryLint
