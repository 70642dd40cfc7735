/-!
# Bordered tables

A table with a rule of plus and minus signs above, below and between all rows. Every column is as
wide as its longest cell; cells are filled up with blanks at their right.
-/

namespace FrameReplay.Text.Table

/-- The width of every column, given the rows from the header on. -/
def widths : List (List String) → List Nat
  | [] => []
  | header :: rows =>
    header.mapIdx fun i cell =>
      rows.foldl (fun width row => max width ((row[i]?.getD "").length)) cell.length

/-- A cell filled up to a width. -/
def pad (width : Nat) (cell : String) : String :=
  cell ++ String.ofList (List.replicate (width - cell.length) ' ')

/-- The rule between two rows. -/
def rule (widths : List Nat) : String :=
  "+" ++ String.join (widths.map fun width => String.ofList (List.replicate (width + 2) '-') ++ "+")

def line (widths : List Nat) (row : List String) : String :=
  "|" ++ String.join ((widths.zip row).map fun (width, cell) => " " ++ pad width cell ++ " |")

/-- The whole table, given the rows from the header on; lines are separated and not ended. -/
def render (rows : List (List String)) : String :=
  let widths := widths rows
  "\n".intercalate (rule widths :: rows.flatMap fun row => [line widths row, rule widths])

end FrameReplay.Text.Table
