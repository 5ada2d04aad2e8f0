import GoalGrid.App.Store
import GoalGrid.App.Report
import GoalGrid.Card.Operation
import GoalGrid.CommandLine.Command
/-!
# The program — carrying out commands

What each command does to the card in a file and what it prints. A command
that changes a card loads it, makes the change, saves the card and then
shows it. A card that the file holds although its items do not fit
together can be saved and then not be shown.
-/

namespace GoalGrid.Settings

/-- Shows a card. -/
def display (s : Settings) (card : Card) : Action String :=
  Action.check (card.render s.cellWidth)

/-- Saves a card and shows it. -/
def saveAndShow (s : Settings) (path : String) (card : Card) : Action String := do
  Action.save path card
  s.display card

/-- Starts a new card in a file. Unless that is forced, it does not replace
a file. -/
def create (s : Settings) (path : String) (size : Option Nat) (header : Option String)
    (noFree force : Bool) : Action String := do
  if (← Action.fileExists path) && !force then throw (.wouldReplace path)
  let size ← match size with
    | some n => Action.check (GridSize.ofSide n)
    | none => Action.ofExcept (s.gridSize.mapError .settings)
  let config ← Action.ofEdit (Config.create size header (some (!noFree && s.defaultFree)))
  s.saveAndShow path { config }

/-- Changes the card in a file; `remark` is printed below the card. -/
def edit (s : Settings) (path : String) (operation : Except CardError Operation)
    (remark : Change → String := fun change => Displacement.report change.displaced) :
    Action String := do
  let card ← Action.load path
  let operation ← Action.check operation
  let change ← Action.ofEdit (operation.apply card)
  let shown ← s.saveAndShow path change.card
  return shown ++ remark change

/-- Copies the card in a file to another file, which must not exist. -/
def copy (s : Settings) (path out : String) (size : Option Nat) (noFree : Bool) :
    Action String := do
  let card ← Action.load path
  let size ← match size with
    | some n => Action.check (GridSize.ofSide n)
    | none => pure card.config.size
  let copy ← Action.ofEdit (card.copy size (!noFree))
  if ← Action.fileExists out then throw (.copyExists out)
  let shown ← s.saveAndShow out copy.card
  if copy.truncated then
    return shown ++
      s!"Only {copy.card.items.length} of {card.items.length} goals fit on the new card.\n"
  else
    return shown

/-- Carries out a command on the card in a file, and gives what it prints. -/
def execute (s : Settings) (path : String) : Command → Action String
  | .create size header noFree force => s.create path size header noFree force
  | .print => do s.display (← Action.load path)
  | .add content position => s.edit path (.ok (.add content position))
  | .remove p => s.edit path (.ok (.remove p))
  | .complete p undo =>
    s.edit path (.ok (.setCompleted p !undo)) fun change => change.card.bingoReport
  | .header text => s.edit path (.ok (.setHeader text))
  | .resize n => s.edit path (Operation.resize <$> GridSize.ofSide n)
  | .enableFree => s.edit path (.ok .enableFree)
  | .disableFree => s.edit path (.ok .disableFree)
  | .moveFree p => s.edit path (.ok (.moveFree p))
  | .shuffle => s.edit path (.ok .shuffle)
  | .swap a b => s.edit path (.ok (.swap a b))
  | .bingos => do return (← Action.load path).bingoReport
  | .finalize => s.edit path (.ok .finalize)
  | .copy out size noFree => s.copy path out size noFree

end GoalGrid.Settings
