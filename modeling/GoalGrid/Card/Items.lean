import GoalGrid.Card.Board
import GoalGrid.Card.Verify
/-!
# Cards — header, size and items

The edits of a draft that leave FREE alone: a new header, a new size for
a card without items, adding and removing items. Marking an item as
completed is the one change that a finalized card allows.
-/

namespace GoalGrid.Card

/-- Whether an item is at this position. -/
def holdsAt (card : Card) (p : Position) : Bool :=
  card.items.any fun item => item.position == p

/-- Refuses a position off the grid, and one without an item. -/
def checkHeld (card : Card) (p : Position) : Except CardError Unit := do
  card.config.size.checkPosition p
  if card.holdsAt p then pure () else throw (.positionEmpty p)

/-- The draft with another header. -/
def setHeader (card : Card) (text : String) : Except CardError Card := do
  card.config.checkDraft
  let header ← card.config.size.normalizeHeader text
  return { card with config := { card.config with header } }

/-- The draft on a grid of another size; it must not hold items, and its
FREE cell is placed anew. -/
def resize (card : Card) (size : GridSize) : Edit Card := do
  Edit.ofExcept card.config.checkDraft
  if !card.items.isEmpty then throw .cardNotEmpty
  let header := GridSize.resizedHeader card.config.header card.config.size size
  let config ← Config.create size (some header) (some card.config.hasFree)
  return { card with config }

/-- The cell for a new item: the one that is asked for, if it is on the
grid and empty, else an empty one at random. -/
def cellFor (board : Board) : Option Position → Edit Position
  | some p => Edit.ofExcept do
    board.size.checkPosition p
    if board.isEmpty p then pure p else throw (.positionOccupied p)
  | none => Edit.chooseOr .cardFull board.emptyPositions

/-- The draft with one item more, at the end of its list. -/
def addIn (build : Build) (card : Card) (content : String) (position : Option Position) :
    Edit Card := do
  Edit.ofExcept card.config.checkDraft
  let content := Text.trim content
  if content.isEmpty then throw .emptyContent
  let board ← Edit.ofExcept (Board.ofCard card)
  if board.isFull then throw .cardFull
  let p ← cellFor board position
  Edit.ofExcept (build.check { card with items := card.items ++ [{ position := p, content }] })

/-- The draft with one item more, in a debug build. -/
def add : Card → String → Option Position → Edit Card :=
  addIn .debug

/-- The draft without the item at this position. -/
def remove (card : Card) (p : Position) : Except CardError Card := do
  card.config.checkDraft
  card.checkHeld p
  return { card with items := card.items.filter fun item => item.position != p }

/-- The card with the item at this position marked as completed or not. -/
def setCompleted (card : Card) (p : Position) (done : Bool) : Except CardError Card := do
  card.checkHeld p
  return { card with
    items := card.items.map fun item => if item.position = p then item.marked done else item }

end GoalGrid.Card
