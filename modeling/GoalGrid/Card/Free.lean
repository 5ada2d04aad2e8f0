import GoalGrid.Card.Board
import GoalGrid.Card.Verify
/-!
# Cards — the FREE cell

Putting FREE on a card, taking it off and moving it. When FREE comes to
lie on an item, the item gives way to an empty cell at random; without an
empty cell the edit is refused.
-/

namespace GoalGrid

/-- A card after an edit, and the item that gave way to FREE, if one did. -/
structure Change where
  card : Card
  displaced : Option Displacement := none
deriving DecidableEq, Repr

namespace Card

/-- Moves the item with this number out of the cell, which FREE takes. -/
def displace (card : Card) (board : Board) (index : Nat) (target : Position) : Edit Change := do
  let candidates := board.emptyPositions.filter (· ≠ target)
  let destination ← Edit.chooseOr .cardFull candidates
  match card.items[index]? with
  | some item =>
    return {
      card := { card with items := card.items.set index (item.movedTo destination) }
      displaced := some ⟨item.content, target, destination⟩ }
  | none => return { card }

/-- Makes room in the cell for FREE. -/
def clearFor (card : Card) (board : Board) (target : Position) : Edit Change :=
  match board.get? target with
  | some (.item index) => card.displace board index target
  | _ => pure { card }

/-- Puts FREE into the cell, once there is room, and checks the card. -/
def putFreeIn (build : Build) (card : Card) (board : Board) (target : Position) : Edit Change := do
  let change ← card.clearFor board target
  let moved : Card :=
    { change.card with config := { card.config with free := some target } }
  let card ← Edit.ofExcept (build.check moved)
  return { change with card }

/-- Puts FREE into the cell, in a debug build. -/
def putFree : Card → Board → Position → Edit Change :=
  putFreeIn .debug

/-- The draft with a FREE cell: the center if the grid has one, else an
empty cell at random. -/
def enableFreeIn (build : Build) (card : Card) : Edit Change := do
  Edit.ofExcept card.config.checkDraft
  if card.config.hasFree then throw .alreadyEnabled
  let board ← Edit.ofExcept (Board.ofCard card)
  let target ← Config.freeTarget card.config.size board.emptyPositions
  card.putFreeIn build board target

/-- The draft with a FREE cell, in a debug build. -/
def enableFree : Card → Edit Change :=
  enableFreeIn .debug

/-- The draft without its FREE cell; no item moves. -/
def disableFree (card : Card) : Except CardError Card := do
  card.config.checkDraft
  if card.config.hasFree then
    return { card with config := { card.config with free := none } }
  else
    throw .notEnabled

/-- The draft with its FREE cell moved. A move to where FREE is changes
nothing, and looks at nothing. -/
def moveFreeIn (build : Build) (card : Card) (target : Position) : Edit Change := do
  Edit.ofExcept card.config.checkDraft
  match card.config.free with
  | none => throw .notEnabled
  | some current =>
    Edit.ofExcept (card.config.size.checkPosition target)
    if current = target then return { card }
    let board ← Edit.ofExcept (Board.ofCard card)
    card.putFreeIn build board target

/-- The draft with its FREE cell moved, in a debug build. -/
def moveFree : Card → Position → Edit Change :=
  moveFreeIn .debug

end Card

end GoalGrid
