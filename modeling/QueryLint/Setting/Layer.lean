import QueryLint.Dialect.Basic
import QueryLint.Setting.Basic
import QueryLint.Text.Blank

/-!
Settings from several sources, where a later one wins. Mappings are joined entry by entry; all
other values are replaced as a whole.
-/

namespace QueryLint

mutual

def Setting.overlay (below above : Setting) : Setting :=
  match above with
  | .map entries =>
    match below with
    | .map under => .map (Setting.overlayEntries under entries)
    | _ => above
  | _ => above

/-- The entries `above` over the entries `below`. -/
def Setting.overlayEntries (below : List (String × Setting)) :
    List (String × Setting) → List (String × Setting)
  | [] => below
  | (key, value) :: rest =>
    let merged := match below.lookup key with
      | some under => Setting.overlay under value
      | none => value
    Setting.overlayEntries (setKey key merged below) rest

end

namespace Settings

def overlay (below above : Settings) : Settings := Setting.overlayEntries below above

/-- A setting whose name leads through mappings. -/
def nested : List String → Setting → Settings
  | [], _ => []
  | [key], value => [(key, value)]
  | key :: rest, value => [(key, .map (nested rest value))]

def ofPaths (entries : Settings) : Settings :=
  entries.foldl (fun all (path, value) => overlay all (nested (Text.splitOn '.' path) value)) []

end Settings

end QueryLint
