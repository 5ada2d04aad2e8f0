import GoalGrid.Card.Items
import GoalGrid.Card.Arrange
import GoalGrid.Card.Copy
import GoalGrid.Card.Finalize
/-!
# Cards — operations

The changes that can be made to a card, as data, and what each of them
makes of a card. Only the two that put FREE somewhere can displace an
item.
-/

namespace GoalGrid

/-- A change that can be made to a card. -/
inductive Operation where
  | add (content : String) (position : Option Position)
  | remove (position : Position)
  | setCompleted (position : Position) (done : Bool)
  | setHeader (text : String)
  | resize (size : GridSize)
  | enableFree
  | disableFree
  | moveFree (target : Position)
  | shuffle
  | swap (a b : Position)
  | finalize
deriving DecidableEq, Repr

namespace Operation

/-- What the operation makes of a card. -/
def applyIn (build : Build) (card : Card) : Operation → Edit Change
  | add content position => return { card := ← card.addIn build content position }
  | remove p => return { card := ← Edit.ofExcept (card.remove p) }
  | setCompleted p done => return { card := ← Edit.ofExcept (card.setCompleted p done) }
  | setHeader text => return { card := ← Edit.ofExcept (card.setHeader text) }
  | resize size => return { card := ← card.resize size }
  | enableFree => card.enableFreeIn build
  | disableFree => return { card := ← Edit.ofExcept card.disableFree }
  | moveFree target => card.moveFreeIn build target
  | shuffle => return { card := ← card.shuffleIn build }
  | swap a b => return { card := ← card.swapIn build a b }
  | finalize => return { card := ← Edit.ofExcept card.finalize }

/-- What the operation makes of a card, in a debug build. -/
def apply : Card → Operation → Edit Change :=
  applyIn .debug

end Operation

end GoalGrid
