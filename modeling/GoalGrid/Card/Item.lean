import GoalGrid.CardError
import GoalGrid.Text.Blank
/-!
# Cards — items

An item is a goal in a cell. When FREE comes to lie on an item, the item
gives way to another cell; such a move is a displacement.
-/

namespace GoalGrid

/-- A goal that occupies a cell. -/
structure Item where
  /-- The cell it occupies. -/
  position : Position
  /-- The text of the goal. -/
  content : String
  /-- Whether the goal has been reached. -/
  completed : Bool := false
deriving DecidableEq, Repr

namespace Item

/-- The item in another cell. -/
def movedTo (item : Item) (p : Position) : Item :=
  { item with position := p }

/-- The item with this completion flag. -/
def marked (item : Item) (done : Bool) : Item :=
  { item with completed := done }

/-- The item, if its text is not blank. -/
def checked (item : Item) : Except CardError Item :=
  if Text.isBlankText item.content then .error .emptyContent else .ok item

end Item

/-- The move of an item out of the way of FREE. -/
structure Displacement where
  /-- The text of the item. -/
  content : String
  /-- The cell that it left. -/
  source : Position
  /-- The cell that it moved to. -/
  target : Position
deriving DecidableEq, Repr

/-- A displacement is written as the text and the two cells. -/
def Displacement.text (d : Displacement) : String :=
  s!"\"{d.content}\" moved {d.source.index} -> {d.target.index}"

end GoalGrid
