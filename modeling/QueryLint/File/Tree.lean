import QueryLint.File.Path
import QueryLint.Store.Basic

/-!
The files that commands work on: a tree of directories in which some names hold text and some hold
a store. Paths are followed step by step, so that each step but the last must be a directory.
-/

namespace QueryLint

inductive FileNode where
  | directory
  | text (content : String)
  | store (content : Store)
deriving DecidableEq, Repr, Inhabited

inductive FileFault where
  | notFound
  | notDirectory
  | isDirectory
  | exists
deriving DecidableEq, Repr, Inhabited

namespace FileFault

def message : FileFault → String
  | .notFound => "no such file or directory"
  | .notDirectory => "not a directory"
  | .isDirectory => "is a directory"
  | .exists => "file exists"

end FileFault

/-- A place: the names on the way from the root. -/
abbrev FilePlace := List String

/-- Places and what they hold. The root is always there and is not listed. -/
structure FileTree where
  nodes : List (FilePlace × FileNode) := []
deriving DecidableEq, Repr, Inhabited

namespace FileTree

def get? (tree : FileTree) (place : FilePlace) : Option FileNode :=
  if place.isEmpty then some .directory else tree.nodes.lookup place

def set (tree : FileTree) (place : FilePlace) (node : FileNode) : FileTree :=
  ⟨setKey place node tree.nodes⟩

def erase (tree : FileTree) (place : FilePlace) : FileTree :=
  ⟨tree.nodes.filter fun entry => !place.isPrefixOf entry.1⟩

/-! ### Following paths -/

def follow (tree : FileTree) (place : FilePlace) (step : String) : Except FileFault FilePlace :=
  match tree.get? place with
  | none => .error .notFound
  | some .directory =>
    .ok (if Path.isIdle step then place
      else if step == ".." then place.dropLast
      else place ++ [step])
  | some _ => .error .notDirectory

/-- The place that a path leads to from a directory; the last step may lead to a place that holds
nothing. -/
def locate (tree : FileTree) (directory path : String) : Except FileFault FilePlace :=
  if path.isEmpty then .error .notFound
  else
    let start := if Path.isAbsolute path then [] else Path.simplify directory
    (Path.steps path).foldlM tree.follow start

def find (tree : FileTree) (directory path : String) : Except FileFault FileNode := do
  match tree.get? (← tree.locate directory path) with
  | some node => return node
  | none => throw .notFound

def contains (tree : FileTree) (directory path : String) : Bool :=
  (tree.find directory path).isOk

/-- The text of a file. A store is not text; it has none. -/
def read (tree : FileTree) (directory path : String) : Except FileFault String := do
  match ← tree.find directory path with
  | .directory => throw .isDirectory
  | .text content => return content
  | .store _ => return ""

def write (tree : FileTree) (directory path content : String) : Except FileFault FileTree := do
  let place ← tree.locate directory path
  if tree.get? place = some .directory then throw .isDirectory
  return tree.set place (.text content)

/-! ### Making directories -/

/-- A path up to each of its slashes, shortest first, and then the whole path. Slashes at the end
belong to the last step. -/
def leading (path : String) : List String :=
  let (slashes, named) := path.toList.reverse.span (· == '/')
  let steps := Text.splitOn '/' (String.ofList named.reverse)
  let starts := (List.range (steps.length - 1)).map fun count =>
    "/".intercalate (steps.take (count + 1))
  starts.filter (!·.isEmpty) ++ [String.ofList (named.reverse ++ slashes)]

def makeDirectory (tree : FileTree) (directory path : String) :
    Except (String × FileFault) FileTree :=
  let bare := String.ofList (Text.trimEndList (· == '/') path.toList)
  match tree.find directory path with
  | .ok .directory => .ok tree
  | .ok _ => .error (path, .notDirectory)
  | .error _ =>
    match tree.locate directory bare with
    | .error fault => .error (path, fault)
    | .ok place =>
      match tree.get? place with
      | none => .ok (tree.set place .directory)
      | some .directory => .ok tree
      | some _ => .error (path, .exists)

def makeDirectories (tree : FileTree) (directory path : String) :
    Except (String × FileFault) FileTree :=
  (leading path).foldlM (fun tree => tree.makeDirectory directory) tree

/-! ### Sources -/

def isHidden (name : String) : Bool := Text.startsWith "." name

def isSource (name : String) : Bool := Text.sameIgnoringCase (Path.extension name) ".sql"

/-- The sources below a directory, as paths that begin with its path. Hidden directories are
passed over, hidden files are not. -/
def sourcesBelow (tree : FileTree) (place : FilePlace) (path : String) : List String :=
  tree.nodes.filterMap fun (other, node) =>
    if place.isPrefixOf other && node != .directory then
      let inside := other.drop place.length
      match inside.getLast? with
      | none => none
      | some name =>
        if inside.dropLast.any isHidden || !isSource name then none
        else some (Path.join path ("/".intercalate inside))
    else none

/-- The sources that a path stands for: itself, or those below it if it is a directory. -/
def sourcesAt (tree : FileTree) (directory path : String) : Except FileFault (List String) := do
  let place ← tree.locate directory path
  match tree.get? place with
  | none => throw .notFound
  | some .directory => return tree.sourcesBelow place path
  | some _ => return [path]

end FileTree

end QueryLint
