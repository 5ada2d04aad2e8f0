/-!
# Grids — positions

A position numbers the cells of a square grid row by row from the top
left. It is a number only: whether it lies on a grid depends on the size.
-/

namespace GoalGrid

/-- A cell number, counted row by row from the top left. -/
structure Position where
  /-- The number of cells before this one. -/
  index : Nat
deriving DecidableEq, Repr

/-- A position is written as its number. -/
def Position.text (p : Position) : String :=
  toString p.index

end GoalGrid
