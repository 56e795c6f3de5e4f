/-!
The tokens of a YAML document. Whether a block is open is told by tokens of their own, so that a
list of tokens shows the structure of a document without its columns.
-/

namespace QueryLint.Yaml

inductive Token where
  | streamEnd
  | version (major minor : Nat)
  /-- What a handle of tags stands for. -/
  | tagHandle (handle start : String)
  | documentStart
  | documentEnd
  | sequenceBlock
  | mappingBlock
  | blockEnd
  | sequenceOpen
  | sequenceClose
  | mappingOpen
  | mappingClose
  /-- The dash before an item of a block. -/
  | item
  | comma
  | key
  | value
  /-- A name given to what follows. -/
  | anchor (name : String)
  /-- What was given a name stands here once more. -/
  | reference (name : String)
  | tag (handle suffix : String)
  | scalar (text : String) (plain : Bool)
deriving DecidableEq, Repr, Inhabited

namespace Token

def isDirective : Token → Bool
  | .version .. | .tagHandle .. => true
  | _ => false

def isBoundary : Token → Bool
  | .documentStart | .documentEnd | .streamEnd => true
  | token => token.isDirective

end Token

end QueryLint.Yaml
