import Grader.Command.Markup
import Grader.Text.Lines
import Grader.Text.Width

/-!
Tables on a terminal: a title, a heading and rows between drawn lines. Every column is as wide as
its widest cell, measured in the cells of the terminal.
-/

namespace Grader

structure Column where
  heading : String
  centred : Bool := false
  deriving Repr, DecidableEq

/-- A table. The cells are marked-up text. -/
structure Table where
  title : String
  columns : List Column
  rows : List (List String)

namespace Table

def blanks (n : Nat) : String := String.ofList (List.replicate n ' ')

/-- A text in the middle of a width; an odd blank goes behind it. -/
def centre (width : Nat) (s : String) : String :=
  let excess := width - Text.cells s
  blanks (excess / 2) ++ s ++ blanks (excess - excess / 2)

/-- A text in a cell of a width, with a blank on both sides. -/
def cell (c : Column) (width : Nat) (s : String) : String :=
  let body := if c.centred then centre width s else s ++ blanks (width - Text.cells s)
  " " ++ body ++ " "

/-- A drawn line: its ends, its crossings and the stroke between them. -/
def rule (left stroke crossing right : String) (widths : List Nat) : String :=
  let parts := widths.map fun w => String.join (List.replicate (w + 2) stroke)
  left ++ String.intercalate crossing parts ++ right

/-- A line of cells between strokes. -/
def line (stroke : String) (columns : List Column) (widths : List Nat) (texts : List String) :
    String :=
  let cells := (columns.zip (widths.zip texts)).map fun (c, w, s) => cell c w s
  stroke ++ String.intercalate stroke cells ++ stroke

/-- The lines of the cells of a row, from the first on. -/
def rowLines (cells : List (List String)) : List (List String) :=
  let height := (cells.map List.length).foldl max 1
  (List.range height).map fun i => cells.map fun ls => ls.getD i ""

def widths (columns : List Column) (rows : List (List (List String))) : List Nat :=
  (List.range columns.length).map fun i =>
    let heading := (columns[i]?.map fun c => Text.cells c.heading).getD 0
    let texts := rows.flatMap fun r => r.getD i []
    (texts.map Text.cells).foldl max heading

/-- The lines of a table whose cells are plain text, line by line. -/
def plainLines (title : String) (columns : List Column) (rows : List (List (List String))) :
    List String :=
  let ws := widths columns rows
  let top := rule "┏" "━" "┳" "┓" ws
  [centre (Text.cells top) title, top, line "┃" columns ws (columns.map (·.heading)),
    rule "┡" "━" "╇" "┩" ws] ++
  (rows.flatMap rowLines).map (line "│" columns ws) ++ [rule "└" "─" "┴" "┘" ws]

def lines (t : Table) : Except Failure (List String) := do
  let rows ← t.rows.mapM fun r => r.mapM fun s => do
    return (Text.splitFeeds (← Markup.render s).toList).map String.ofList
  return plainLines t.title t.columns rows

end Table

end Grader
