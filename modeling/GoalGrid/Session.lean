import GoalGrid.Card.Operation
/-!
# Sessions

A session is a card, once there is one, and the generator that its edits
draw from. A step that is refused leaves the card as it was; what it drew
before it was refused stays drawn.
-/

namespace GoalGrid

/-- Why a step of a session fails. -/
inductive SessionError where
  /-- There is no card yet. -/
  | noCard
  /-- The card refuses the step. -/
  | refused (cause : CardError)
deriving DecidableEq, Repr

/-- A card, once there is one, and a generator. -/
structure Session where
  card : Option Card := none
  generator : Generator

namespace Session

variable {α : Type}

/-- Runs an edit and keeps the card that `keep` takes from its result, if
it takes one. -/
def perform (s : Session) (e : Edit α) (keep : α → Option Card) :
    Except SessionError α × Session :=
  match e.outcome s.generator with
  | (.ok x, g) => (.ok x, { card := (keep x).or s.card, generator := g })
  | (.error cause, g) => (.error (.refused cause), { s with generator := g })

/-- Runs an edit of the current card. -/
def onCard (s : Session) (e : Card → Edit α) (keep : α → Option Card) :
    Except SessionError α × Session :=
  match s.card with
  | some card => s.perform (e card) keep
  | none => (.error .noCard, s)

/-- Takes a card as the current one. -/
def load (s : Session) (card : Card) : Session :=
  { s with card := some card }

/-- Starts a new card. -/
def create (s : Session) (size : GridSize) (header : Option String) (hasFree : Option Bool) :
    Except SessionError Card × Session :=
  s.perform (return { config := ← Config.create size header hasFree }) some

/-- Changes the current card. -/
def change (s : Session) (operation : Operation) : Except SessionError Change × Session :=
  s.onCard (operation.apply ·) fun change => some change.card

/-- Copies the current card; the copy becomes the current card if it is
adopted. -/
def copy (s : Session) (size : GridSize) (hasFree adopt : Bool) :
    Except SessionError CardCopy × Session :=
  s.onCard (·.copy size hasFree) fun copy => if adopt then some copy.card else none

/-- Reads something off the current card. -/
def ask (s : Session) (f : Card → Except CardError α) : Except SessionError α :=
  match s.card with
  | none => .error .noCard
  | some card => (f card).mapError .refused

end Session

end GoalGrid
