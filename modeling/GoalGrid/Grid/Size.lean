import GoalGrid.CardError
/-!
# Grids — sizes and the cells of a size

A grid is a square with two to five cells to a side. Everything here is
arithmetic on the side length: which positions there are, where they
lie, and where the center is.
-/

namespace GoalGrid

/-- The side lengths a grid can have. -/
inductive GridSize where
  | two
  | three
  | four
  | five
deriving DecidableEq, Repr

namespace GridSize

/-- Every size, smallest first. -/
def all : List GridSize := [two, three, four, five]

/-- The number of cells along one side. -/
def side : GridSize → Nat
  | two => 2
  | three => 3
  | four => 4
  | five => 5

/-- The number of cells. -/
def total (size : GridSize) : Nat :=
  size.side * size.side

/-- The number of items a card can hold: FREE takes one cell. -/
def capacity (size : GridSize) (hasFree : Bool) : Nat :=
  if hasFree then size.total - 1 else size.total

/-- The size with this side length. -/
def ofSide : Nat → Except CardError GridSize
  | 2 => .ok two
  | 3 => .ok three
  | 4 => .ok four
  | 5 => .ok five
  | n => .error (.invalidGridSize n)

/-- A size is written as both of its side lengths. -/
def text (size : GridSize) : String :=
  s!"{size.side}x{size.side}"

/-- The middle cell; only a grid with an odd side has one. -/
def center : GridSize → Option Position
  | three => some ⟨4⟩
  | five => some ⟨12⟩
  | two | four => none

/-- Whether the position lies on the grid. -/
def contains (size : GridSize) (p : Position) : Bool :=
  p.index < size.total

/-- Refuses a position off the grid. -/
def checkPosition (size : GridSize) (p : Position) : Except CardError Unit :=
  if size.contains p then .ok () else .error (.positionOutOfRange p size.total)

/-- Every position of the grid, in increasing order. -/
def positions (size : GridSize) : List Position :=
  (List.range size.total).map Position.mk

/-- The row of a position; the top row is row 0. -/
def rowOf (size : GridSize) (p : Position) : Nat :=
  p.index / size.side

/-- The column of a position; the leftmost column is column 0. -/
def columnOf (size : GridSize) (p : Position) : Nat :=
  p.index % size.side

/-- The position in this row and column. -/
def positionAt (size : GridSize) (row column : Nat) : Position :=
  ⟨row * size.side + column⟩

/-- How many sizes are smaller. -/
def rank (size : GridSize) : Nat :=
  (all.filter (·.side < size.side)).length

end GridSize

end GoalGrid
