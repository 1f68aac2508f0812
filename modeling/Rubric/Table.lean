import Rubric.Text.Search
import Rubric.Text.Width

namespace Rubric

structure Table where
  head : List String
  rows : List (List String)
deriving DecidableEq, Repr

namespace Table

def cellLines (cell : String) : List String :=
  Text.pieces '\n' cell

def cellWidth (cell : String) : Nat :=
  ((cellLines cell).map Text.width).foldl max 0

/-- The widths of columns, each as wide as its widest cell. -/
def widths (rows : List (List String)) : List Nat :=
  rows.foldl (fun ws row => List.zipWith (fun w cell => max w (cellWidth cell)) ws row)
    (List.replicate (rows.headD []).length 0)

def padCell (width : Nat) (text : String) : String :=
  " " ++ text ++ String.ofList (List.replicate (width - Text.width text + 1) ' ')

/-- One line of a row, from the texts that its columns have there. -/
def rowLine (widths : List Nat) (texts : List String) : String :=
  "|" ++ String.intercalate "|" (List.zipWith padCell widths texts) ++ "|"

/-- The lines of a row. Columns with fewer lines are filled with empty ones. -/
def rowLines (widths : List Nat) (row : List String) : List String :=
  let cells := row.map cellLines
  let height := (cells.map List.length).foldl max 1
  (List.range height).map fun i => rowLine widths (cells.map fun lines => lines.getD i "")

/-- A rule across the table: the mark at its ends, the mark it is drawn with, and the mark where it
meets the line between two columns. -/
def rule (ends line crossing : Char) (widths : List Nat) : String :=
  let parts := widths.map fun w => String.ofList (List.replicate (w + 2) line)
  ends.toString ++ String.intercalate crossing.toString parts ++ ends.toString

def body (widths : List Nat) : List (List String) → List String
  | [] => []
  | [row] => rowLines widths row
  | row :: rest => rowLines widths row ++ rule '|' '-' '+' widths :: body widths rest

def lines (t : Table) : List String :=
  let ws := widths (t.head :: t.rows)
  rule '+' '-' '+' ws :: rowLines ws t.head ++
    rule '+' '=' '=' ws :: body ws t.rows ++ [rule '+' '-' '+' ws]

def text (t : Table) : String :=
  String.intercalate "\n" t.lines

end Table

end Rubric
