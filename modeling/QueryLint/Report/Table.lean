import QueryLint.Report.Output

/-!
Tables. A column whose cells are all numbers is aligned to the right; a cell that a row leaves out
is empty. Titles are in upper case except in Markdown.
-/

namespace QueryLint

inductive Cell where
  | text (value : String)
  | number (value : Int)
deriving DecidableEq, Repr, Inhabited

namespace Cell

def render : Cell → String
  | .text value => value
  | .number value => toString value

def isNumber : Cell → Bool
  | .text _ => false
  | .number _ => true

end Cell

structure Table where
  titles : List String
  rows : List (List Cell)
deriving DecidableEq, Repr, Inhabited

structure TableStyle where
  horizontal : String
  vertical : String
  top : String × String × String
  middle : String × String × String
  bottom : String × String × String

namespace TableStyle

def plain : TableStyle :=
  ⟨"-", "|", ("+", "+", "+"), ("+", "+", "+"), ("+", "+", "+")⟩

def box : TableStyle :=
  ⟨"─", "│", ("┌", "┬", "┐"), ("├", "┼", "┤"), ("└", "┴", "┘")⟩

end TableStyle

namespace Table

def columnCount (table : Table) : Nat :=
  (table.rows.map List.length).foldl max table.titles.length

def isNumeric (table : Table) (column : Nat) : Bool :=
  table.rows.all fun row => (row[column]?).all Cell.isNumber

/-- A line in which each carriage return moves to the beginning and later characters replace
earlier ones. -/
def overwrite (line : String) : String :=
  let step (state : List Char × List Char) (c : Char) : List Char × List Char :=
    if c = '\r' then ([], state.1 ++ state.2)
    else (state.1 ++ [c], state.2.drop 1)
  let (before, after) := line.toList.foldl step ([], [])
  String.ofList (before ++ after)

/-- The text of a cell with its tabs and line ends made plain. -/
def cellText (text : String) : String :=
  let plain := Text.replaceAll "\r\n" "\n" (Text.replaceAll "\t" "    " text)
  "\n".intercalate ((Text.splitOn '\n' plain).map overwrite)

/-- The texts of a row, filled up to all columns. -/
def texts (table : Table) (row : List String) : List String :=
  (List.range table.columnCount).map fun column => cellText ((row[column]?).getD "")

def rowTexts (table : Table) : List (List String) :=
  table.rows.map fun row => table.texts (row.map Cell.render)

def columnWidth (rows : List (List String)) (column : Nat) : Nat :=
  ((rows.flatMap fun row => Text.splitOn '\n' ((row[column]?).getD "")).map Text.width).foldl max 0

def rule (style : TableStyle) (strokes : String × String × String) (widths : List Nat) : String :=
  let parts := widths.map fun width =>
    String.join (List.replicate (width + 2) style.horizontal)
  strokes.1 ++ strokes.2.1.intercalate parts ++ strokes.2.2 ++ "\n"

def cellLine (style : TableStyle) (widths : List (Nat × Bool)) (cells : List String) : String :=
  let parts := (widths.zip cells).map fun ((width, right), cell) =>
    " " ++ Text.padTo width right cell ++ " "
  style.vertical ++ style.vertical.intercalate parts ++ style.vertical ++ "\n"

/-- A row, which is as high as its highest cell. -/
def rowLines (style : TableStyle) (widths : List (Nat × Bool)) (cells : List String) : String :=
  let columns := cells.map (Text.splitOn '\n')
  let height := (columns.map List.length).foldl max 1
  String.join ((List.range height).map fun line =>
    cellLine style widths (columns.map fun lines => (lines[line]?).getD ""))

def renderText (table : Table) (style : TableStyle) : String :=
  if table.columnCount = 0 then ""
  else
    let header := (table.texts table.titles).map Text.upper
    let rows := table.rowTexts
    let columns := List.range table.columnCount
    let widths := columns.map (columnWidth (header :: rows))
    let aligned := widths.zip (columns.map table.isNumeric)
    rule style style.top widths ++ rowLines style aligned header ++
      rule style style.middle widths ++ String.join (rows.map (rowLines style aligned)) ++
      rule style style.bottom widths

def renderMarkdown (table : Table) : String :=
  if table.columnCount = 0 then ""
  else
    let escape (text : String) : String :=
      Text.replaceAll "\n" "<br/>" (Text.replaceAll "|" "\\|" text)
    let line (cells : List String) : String :=
      "|" ++ String.join (cells.map fun cell => " " ++ escape cell ++ " |") ++ "\n"
    let rule := (List.range table.columnCount).map fun column =>
      if table.isNumeric column then " ---:|" else " --- |"
    line (table.texts table.titles) ++ "|" ++ String.join rule ++ "\n" ++
      String.join (table.rowTexts.map line)

end Table

def Console.table (console : Console) (table : Table) : Output :=
  .print <| if console.form = .markdown then table.renderMarkdown
    else table.renderText (if console.terminal then .box else .plain)

end QueryLint
