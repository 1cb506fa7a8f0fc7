import Tabula.Table.Basic

/-!
# Rows in boxes

Rows are drawn as a grid of boxes, each column as wide as its widest text.  A long text is cut and
ends in three dots.
-/

namespace Tabula
namespace Grid

/-- The length from which on a text is cut, and how much of it is kept. -/
def longest : Nat :=
  50

def kept : Nat :=
  47

def cell (v : Value) : List Char :=
  match v with
  | .text s =>
      if longest < s.toList.length then s.toList.take kept ++ ['.', '.', '.'] else s.toList
  | v => v.display.toList

def widths (header : List (List Char)) (rows : List (List (List Char))) : List Nat :=
  rows.foldl (fun widths row => widths.zipWith max (row.map List.length)) (header.map List.length)

def border (left middle right : Char) (widths : List Nat) : List Char :=
  left :: [middle].intercalate (widths.map fun w => List.replicate (w + 2) '─') ++ [right]

def line (widths : List Nat) (texts : List (List Char)) : List Char :=
  '│' :: ['│'].intercalate
    (widths.zipWith (fun w text => ' ' :: text ++ List.replicate (w - text.length + 1) ' ') texts) ++
    ['│']

/-- The lines of the grid of a row set, with the number of rows below. -/
def draw (set : RowSet) : List String :=
  if set.rows.isEmpty then
    ["(0 rows)"]
  else
    let header := set.columns.map String.toList
    let rows := set.rows.map fun row => row.map cell
    let ws := widths header rows
    let grid :=
      [border '┌' '┬' '┐' ws, line ws header, border '├' '┼' '┤' ws] ++ rows.map (line ws) ++
        [border '└' '┴' '┘' ws]
    let count := set.rows.length
    grid.map String.ofList ++ [s!"({count} row" ++ (if count = 1 then ")" else "s)")]

end Grid
end Tabula
