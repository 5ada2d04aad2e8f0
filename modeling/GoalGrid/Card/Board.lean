import GoalGrid.Card.Config
/-!
# Cards — boards

A board says what each cell of a card holds. Laying a card out on a board
is also the check that its items fit together: `Board.ofCard` refuses
items that are blank, off the grid, on FREE, or in a cell with another.
-/

namespace GoalGrid

/-- What a cell holds; an item is named by its place in the list of items. -/
inductive Cell where
  | empty
  | free
  | item (index : Nat)
deriving DecidableEq, Repr

/-- The cells of a grid, row by row. -/
structure Board where
  size : GridSize
  cells : List Cell
deriving DecidableEq, Repr

namespace Board

/-- The board without anything on it. -/
def vacant (size : GridSize) : Board :=
  ⟨size, List.replicate size.total .empty⟩

/-- What the cell holds, if it lies on the grid. -/
def get? (board : Board) (p : Position) : Option Cell :=
  board.cells[p.index]?

/-- The board with this in the cell. -/
def put (board : Board) (p : Position) (cell : Cell) : Board :=
  { board with cells := board.cells.set p.index cell }

/-- Whether the cell lies on the grid and is empty. -/
def isEmpty (board : Board) (p : Position) : Bool :=
  board.get? p == some .empty

/-- The empty cells, in increasing order. -/
def emptyPositions (board : Board) : List Position :=
  board.size.positions.filter board.isEmpty

/-- Whether no cell is empty. -/
def isFull (board : Board) : Bool :=
  board.cells.all (· != .empty)

/-- Puts an item into its cell, as the item with this number. -/
def place (board : Board) (index : Nat) (item : Item) : Except CardError Board := do
  let item ← item.checked
  board.size.checkPosition item.position
  if board.isEmpty item.position then
    return board.put item.position (.item index)
  else
    throw (.positionOccupied item.position)

/-- Puts the items into their cells, numbered from `index` on. -/
def placeAll (board : Board) (index : Nat) : List Item → Except CardError Board
  | [] => .ok board
  | item :: items => do
    let board ← board.place index item
    board.placeAll (index + 1) items

/-- The board of a configuration without items. -/
def ofConfig (config : Config) : Board :=
  match config.free with
  | some p => (vacant config.size).put p .free
  | none => vacant config.size

/-- The board of a card, unless its items do not fit together. -/
def ofCard (card : Card) : Except CardError Board :=
  (ofConfig card.config).placeAll 0 card.items

end Board

end GoalGrid
