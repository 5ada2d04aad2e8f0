import GoalGrid.Grid.Position
/-!
# Refusals — why a card is not made or changed as asked

Each constructor of `CardError` is one cause, and `CardError.message` gives
its wording. One of the causes is that a card breaks its promises, which
are named here (`Invariant`); when they hold is said where cards are
known (`Invariant.holds`).
-/

namespace GoalGrid

/-! ## Promises -/

/-- A promise that a sound card keeps. -/
inductive Invariant where
  | positionsInRange
  | positionsUnique
  | freeVacant
  | withinCapacity
  | contentPresent
deriving DecidableEq, Repr

namespace Invariant

/-- Every invariant, in the order in which violations are reported. -/
def all : List Invariant :=
  [positionsInRange, positionsUnique, freeVacant, withinCapacity, contentPresent]

/-- What the invariant promises. -/
def description : Invariant → String
  | positionsInRange => "Item positions lie on the grid"
  | positionsUnique => "Item positions are unique"
  | freeVacant => "FREE cell holds no item"
  | withinCapacity => "Item count is within capacity"
  | contentPresent => "Every item has non-empty content"

end Invariant

/-! ## Causes -/

/-- Why a card cannot be made or changed as asked. -/
inductive CardError where
  /-- No grid has this side length. -/
  | invalidGridSize (side : Nat)
  /-- The header has no character, or more than the grid has columns. -/
  | invalidHeaderLength (length max : Nat)
  /-- The position is not on the grid. -/
  | positionOutOfRange (position : Position) (total : Nat)
  /-- The cell holds an item or is FREE. -/
  | positionOccupied (position : Position)
  /-- The cell holds no item. -/
  | positionEmpty (position : Position)
  /-- No cell is empty. -/
  | cardFull
  /-- The card has a FREE cell already. -/
  | alreadyEnabled
  /-- The card has no FREE cell. -/
  | notEnabled
  /-- Finalizing takes as many items as the card can hold. -/
  | capacityNotMet (held needed : Nat)
  /-- The card is no draft. -/
  | alreadyFinalized
  /-- The text of an item is blank. -/
  | emptyContent
  /-- The grid of a card with items keeps its size. -/
  | cardNotEmpty
  /-- An edit was about to break these promises. -/
  | invariantViolation (violated : List Invariant)
deriving DecidableEq, Repr

namespace CardError

/-- The wording of the cause. -/
def message : CardError → String
  | invalidGridSize side => s!"Grid size {side} is not supported; choose 2, 3, 4 or 5"
  | invalidHeaderLength length max =>
    s!"Header must be between 1 and {max} characters, got {length}"
  | positionOutOfRange position total =>
    s!"Position {position.index} is outside the {total}-square grid"
  | positionOccupied position => s!"Position {position.index} is already occupied"
  | positionEmpty position => s!"Position {position.index} has no item"
  | cardFull => "Card is full; remove an item to make room"
  | alreadyEnabled => "FREE space is already enabled"
  | notEnabled => "FREE space is not enabled"
  | capacityNotMet held needed => s!"Card needs {needed} items to finalize, has {held}"
  | alreadyFinalized => "Card is finalized and can no longer be edited"
  | emptyContent => "Item content must not be empty"
  | cardNotEmpty => "Remove all items before changing the grid size"
  | invariantViolation violated =>
    "Invariant violation: Postcondition failed: " ++
      "; ".intercalate (violated.map Invariant.description)

end CardError

end GoalGrid
