import GoalGrid.Card.Free
/-!
# Cards — moving items about

Shuffling the items over the cells they occupy, and exchanging two cells.
-/

namespace GoalGrid.Card

/-- Puts an item before the first one that does not come earlier. -/
def insertByPosition (item : Item) : List Item → List Item
  | [] => [item]
  | other :: items =>
    if item.position.index ≤ other.position.index then item :: other :: items
    else other :: insertByPosition item items

/-- The items in the order of their positions; items at one position keep
their order. -/
def byPosition (items : List Item) : List Item :=
  items.foldr insertByPosition []

/-- The draft with its items shuffled over the cells that they occupy; the
items come out in the order of their positions. -/
def shuffleIn (build : Build) (card : Card) : Edit Card := do
  Edit.ofExcept card.config.checkDraft
  let _ ← Edit.ofExcept (Board.ofCard card)
  let sorted := byPosition card.items
  let shuffled ← Edit.ofDraw (Random.shuffle sorted)
  let items := List.zipWith (fun item slot => item.movedTo slot.position) shuffled sorted
  Edit.ofExcept (build.check { card with items })

/-- The draft with its items shuffled, in a debug build. -/
def shuffle : Card → Edit Card :=
  shuffleIn .debug

/-- Where the exchange of two cells takes a position. -/
def exchanged (a b p : Position) : Position :=
  if p = a then b else if p = b then a else p

/-- The draft with the contents of two cells exchanged. If one of them is
FREE, it moves to the other one. -/
def swapIn (build : Build) (card : Card) (a b : Position) : Edit Card := do
  Edit.ofExcept do
    card.config.checkDraft
    card.config.size.checkPosition a
    card.config.size.checkPosition b
  match card.config.isFree a, card.config.isFree b with
  | true, true => return card
  | true, false => return (← card.moveFreeIn build b).card
  | false, true => return (← card.moveFreeIn build a).card
  | false, false =>
    let _ ← Edit.ofExcept (Board.ofCard card)
    if a = b then return card
    let items := card.items.map fun item => item.movedTo (exchanged a b item.position)
    Edit.ofExcept (build.check { card with items })

/-- The draft with the contents of two cells exchanged, in a debug build. -/
def swap : Card → Position → Position → Edit Card :=
  swapIn .debug

end GoalGrid.Card
