import GoalGrid.Card.Edit
import GoalGrid.Card.Item
import GoalGrid.Grid.Header
/-!
# Cards — configurations

What a card is apart from its items: the size of its grid, its header,
its FREE cell, and whether it can still be edited. `Config.create` and
`Config.ofParts` make only configurations with a header in normal form
and with FREE, if there is one, on the grid.
-/

namespace GoalGrid

/-- Whether the layout of a card may still change. -/
inductive Phase where
  | draft
  | finalized
deriving DecidableEq, Repr

/-- The name of the phase. -/
def Phase.name : Phase → String
  | .draft => "draft"
  | .finalized => "finalized"

/-- The configuration of a card. -/
structure Config where
  /-- The size of the grid. -/
  size : GridSize
  /-- The text above the columns. -/
  header : String
  /-- The FREE cell, if there is one. -/
  free : Option Position
  /-- Whether the card is a draft. -/
  phase : Phase
deriving DecidableEq, Repr

namespace Config

/-- Whether the card has a FREE cell. -/
def hasFree (config : Config) : Bool :=
  config.free.isSome

/-- Whether the cell is FREE. -/
def isFree (config : Config) (p : Position) : Bool :=
  config.free == some p

/-- Whether the card is finalized. -/
def isFinalized (config : Config) : Bool :=
  config.phase == .finalized

/-- The number of items that the card can hold. -/
def capacity (config : Config) : Nat :=
  config.size.capacity config.hasFree

/-- Whether an item may be at this position. -/
def admits (config : Config) (p : Position) : Bool :=
  config.size.contains p && !config.isFree p

/-- Refuses a card that is no draft. -/
def checkDraft (config : Config) : Except CardError Unit :=
  if config.isFinalized then .error .alreadyFinalized else .ok ()

/-- The configuration with these parts: the header is brought to normal
form, and FREE has to lie on the grid. -/
def ofParts (size : GridSize) (header : String) (free : Option Position) (phase : Phase) :
    Except CardError Config := do
  let header ← size.normalizeHeader header
  match free with
  | some p => size.checkPosition p
  | none => pure ()
  return { size, header, free, phase }

/-- Where FREE goes when `vacant` lists the empty cells: into the center if
there is one, else into an empty cell at random. -/
def freeTarget (size : GridSize) (vacant : List Position) : Edit Position :=
  match size.center with
  | some center => pure center
  | none => Edit.chooseOr .cardFull vacant

/-- A new draft. The header is the default one unless another is given, and
the card has a FREE cell unless it is unwanted. -/
def create (size : GridSize) (header : Option String) (hasFree : Option Bool) : Edit Config := do
  let header ← Edit.ofExcept (size.normalizeHeader (header.getD size.defaultHeader))
  if hasFree.getD true then
    let target ← freeTarget size size.positions
    return { size, header, free := some target, phase := .draft }
  else
    return { size, header, free := none, phase := .draft }

end Config

/-- A card: its configuration, and its items in the order in which they were
added. -/
structure Card where
  config : Config
  items : List Item := []
deriving DecidableEq, Repr

end GoalGrid
