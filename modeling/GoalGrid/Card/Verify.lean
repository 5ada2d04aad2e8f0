import GoalGrid.Card.Config
/-!
# Cards — checking the invariants

When each of the five invariants holds of a card, and the check of all of
them that ends an edit. It is there to find mistakes in the edits, so a
release build leaves it out.
-/

namespace GoalGrid

/-- Whether the card keeps the promise. -/
def Invariant.holds (card : Card) : Invariant → Bool
  | .positionsInRange => card.items.all fun item => card.config.size.contains item.position
  | .positionsUnique => (card.items.map Item.position).Nodup
  | .freeVacant => card.items.all fun item => !card.config.isFree item.position
  | .withinCapacity => card.items.length ≤ card.config.capacity
  | .contentPresent => card.items.all fun item => !Text.isBlankText item.content

namespace Card

/-- The invariants that the card breaks, in their order. -/
def violations (card : Card) : List Invariant :=
  Invariant.all.filter fun promise => !promise.holds card

/-- Refuses a card that breaks an invariant. -/
def verify (card : Card) : Except CardError Card :=
  match card.violations with
  | [] => .ok card
  | broken => .error (.invariantViolation broken)

end Card

/-- How the library is built. -/
inductive Build where
  | debug
  | release
deriving DecidableEq, Repr

/-- The check that ends an edit; a release build accepts every card. -/
def Build.check : Build → Card → Except CardError Card
  | debug, card => card.verify
  | release, card => .ok card

end GoalGrid
