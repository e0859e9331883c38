/-
Tables of text. Every column is as wide as its widest cell, counted in characters, and two spaces
stand between columns. The last column is not filled up, and no line ends in blanks.
-/
import MultiCluster.Text.Blank
namespace MultiCluster

structure Table where
  headers : List String
  rows : List (List String)

namespace Table

/-- The cell of a row in column `j`; a missing one is empty. -/
def cell (row : List String) (j : Nat) : String := (row[j]?).getD ""

/-- The width of column `j`. -/
def width (t : Table) (j : Nat) : Nat := ((t.headers :: t.rows).map fun row => (cell row j).length).foldl max 0

/-- The text filled up with spaces. -/
def fill (width : Nat) (s : String) : List Char := s.toList ++ List.replicate (width - s.length) ' '

/-- The cells of a row from column `j` on, `left` columns before the last. -/
def cells (t : Table) (row : List String) : (j left : Nat) → List Char
  | j, 0 => (cell row j).toList
  | j, left + 1 => fill (t.width j) (cell row j) ++ [' ', ' '] ++ cells t row (j + 1) left

/-- A row as a line. -/
def line (t : Table) (row : List String) : List Char :=
  match t.headers.length with
  | 0 => []
  | n + 1 => Text.trimEnd (t.cells row 0 n)

def lines (t : Table) : List (List Char) := (t.headers :: t.rows).map t.line

def render (t : Table) : String := String.ofList (t.lines.flatMap fun l => l ++ ['\n'])

end Table

end MultiCluster
