import QueryLint.Text.Utf8

/-!
Places in a source text. Lines and columns count from one, offsets from zero; columns and offsets
count bytes. A position is unset when its line is not positive.
-/

namespace QueryLint

open Text (Bytes)

structure Position where
  line : Int := 0
  column : Int := 0
  offset : Int := 0
deriving DecidableEq, Repr, Inhabited

namespace Position

def start : Position := ⟨1, 1, 0⟩

/-- The position after one byte; a line feed begins a new line. -/
def next (position : Position) (byte : UInt8) : Position :=
  if byte = 0x0A then ⟨position.line + 1, 1, position.offset + 1⟩
  else ⟨position.line, position.column + 1, position.offset + 1⟩

def advance (position : Position) (bytes : Bytes) : Position := bytes.foldl next position

@[simp] theorem advance_nil (position : Position) : position.advance [] = position := rfl

@[simp] theorem advance_append (position : Position) (first second : Bytes) :
    position.advance (first ++ second) = (position.advance first).advance second := by
  simp [advance]

def isValid (position : Position) : Bool := 0 < position.line

def render (position : Position) : String :=
  toString position.line ++ ":" ++ toString position.column

def before (a b : Position) : Bool := a.offset < b.offset

end Position

/-- A range of a source; `stop` is the first position after it. -/
structure Span where
  start : Position := {}
  stop : Position := {}
deriving DecidableEq, Repr, Inhabited

namespace Span

def contains (span : Span) (offset : Int) : Bool :=
  span.start.offset ≤ offset && offset < span.stop.offset

def isValid (span : Span) : Bool := span.start.isValid && span.stop.isValid

/-- The bytes of the source that the span covers, none when the span does not fit the source. -/
def slice (span : Span) (source : Bytes) : Bytes :=
  if span.isValid && 0 ≤ span.start.offset && span.stop.offset ≤ source.length &&
      span.start.offset ≤ span.stop.offset then
    (source.take span.stop.offset.toNat).drop span.start.offset.toNat
  else []

end Span

end QueryLint
