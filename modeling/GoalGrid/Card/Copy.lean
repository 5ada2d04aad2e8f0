import GoalGrid.Card.Arrange
/-!
# Cards — copies

A copy takes the goals of a card to a new draft, which may have another
size: only the texts, in the order of their positions and as many as
fit, each in a cell at random.
-/

namespace GoalGrid

/-- A copy of a card. -/
structure CardCopy where
  card : Card
  /-- Whether some goals did not fit. -/
  truncated : Bool
deriving DecidableEq, Repr

namespace Card

/-- The goals of the items, put as new items into the cells. -/
def placedGoals (items : List Item) (cells : List Position) : List Item :=
  List.zipWith (fun item p => { position := p, content := item.content }) items cells

/-- A new draft with the goals of the card. -/
def copyIn (build : Build) (card : Card) (size : GridSize) (hasFree : Bool) : Edit CardCopy := do
  let _ ← Edit.ofExcept (Board.ofCard card)
  let header := GridSize.resizedHeader card.config.header card.config.size size
  let config ← Config.create size (some header) (some hasFree)
  let vacant := size.positions.filter fun p => !config.isFree p
  let goals := (byPosition card.items).take config.capacity
  let slots ← Edit.ofDraw (Random.slots goals.length vacant.length)
  let items := placedGoals goals (Random.pick slots vacant)
  let copied ← Edit.ofExcept (build.check { config, items })
  return { card := copied, truncated := config.capacity < card.items.length }

/-- A new draft with the goals of the card, in a debug build. -/
def copy : Card → GridSize → Bool → Edit CardCopy :=
  copyIn .debug

end Card

end GoalGrid
