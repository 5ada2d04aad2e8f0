import GoalGrid.Grid.Size
/-!
# Grids — lines

The rows, columns and diagonals of a grid, each with the positions on it.
-/

namespace GoalGrid

/-- The direction of a line. -/
inductive LineKind where
  | row
  | column
  | diagonal
deriving DecidableEq, Repr

/-- The name of the direction. -/
def LineKind.name : LineKind → String
  | .row => "row"
  | .column => "column"
  | .diagonal => "diagonal"

/-- A line: its direction, and its number among the lines of that
direction. Diagonal 0 falls to the right, every other one to the left. -/
structure Line where
  kind : LineKind
  index : Nat
deriving DecidableEq, Repr

namespace Line

/-- A line is written as its direction and number. -/
def text (line : Line) : String :=
  line.kind.name ++ " " ++ toString line.index

/-- The cell of the line in the `i`-th place along it. -/
def cellAt (line : Line) (size : GridSize) (i : Nat) : Position :=
  match line.kind with
  | .row => size.positionAt line.index i
  | .column => size.positionAt i line.index
  | .diagonal =>
    if line.index = 0 then size.positionAt i i else size.positionAt i (size.side - 1 - i)

/-- The cells of the line, from its start to its end. -/
def positions (line : Line) (size : GridSize) : List Position :=
  (List.range size.side).map (line.cellAt size)

end Line

namespace GridSize

/-- Every line of the grid: rows, then columns, then the two diagonals. -/
def lines (size : GridSize) : List Line :=
  (List.range size.side).map (Line.mk .row) ++ (List.range size.side).map (Line.mk .column) ++
    (List.range 2).map (Line.mk .diagonal)

variable {size : GridSize} {line : Line} {i : Nat}

@[simp] theorem length_lines (size : GridSize) : size.lines.length = 2 * size.side + 2 := by
  simp [lines]
  omega

/-- The first lines are the rows, from the top one down … -/
theorem getElem?_lines_row (h : i < size.side) : size.lines[i]? = some ⟨.row, i⟩ := by
  simp [lines, List.getElem?_append, h]

/-- … after them come the columns, from the leftmost one to the right … -/
theorem getElem?_lines_column (h : i < size.side) :
    size.lines[size.side + i]? = some ⟨.column, i⟩ := by
  simp [lines, List.getElem?_append, h]

/-- … **and at the end come the two diagonals.** -/
theorem getElem?_lines_diagonal (h : i < 2) :
    size.lines[2 * size.side + i]? = some ⟨.diagonal, i⟩ := by
  have hfront : ((List.range size.side).map (Line.mk .row) ++
      (List.range size.side).map (Line.mk .column)).length = 2 * size.side := by
    simp [Nat.two_mul]
  rw [lines, List.getElem?_append_right (by omega), hfront, Nat.add_sub_cancel_left]
  simp [h]

/-- There is a row and a column for each number below the side. -/
theorem mem_lines_iff : line ∈ size.lines ↔
    line.index < match line.kind with
      | .row | .column => size.side
      | .diagonal => 2 := by
  obtain ⟨kind, index⟩ := line
  cases kind <;> simp [lines]

end GridSize

end GoalGrid
