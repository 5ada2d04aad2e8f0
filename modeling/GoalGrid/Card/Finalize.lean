import GoalGrid.Card.Board
/-!
# Cards — finalizing

A draft with an item in every cell but FREE can be finalized, after which
only completion changes. There is no way back.
-/

namespace GoalGrid.Card

/-- The finalized card. -/
def finalize (card : Card) : Except CardError Card := do
  card.config.checkDraft
  let _ ← Board.ofCard card
  if card.items.length = card.config.capacity then
    return { card with config := { card.config with phase := .finalized } }
  else
    throw (.capacityNotMet card.items.length card.config.capacity)

end GoalGrid.Card
