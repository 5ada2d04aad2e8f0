import GoalGrid.Card.Config
import GoalGrid.Grid.Line
/-!
# Cards — bingos

A bingo is a line all of whose cells count as complete: FREE does, and so
does a cell with a completed item. The cells are flagged in one pass over
the items, in which items off the grid flag nothing; then the lines are
tried one after another.
-/

namespace GoalGrid

/-- Sets the flag of the cell, if it has one; the flags stand row by row. -/
def setFlag (flags : List Bool) (p : Position) : List Bool :=
  flags.set p.index true

/-- Whether the flag of the cell is set. -/
def isFlagged (flags : List Bool) (p : Position) : Bool :=
  flags[p.index]? == some true

/-- The flags of a grid with none set but that of FREE. -/
def Config.freeFlags (config : Config) : List Bool :=
  match config.free with
  | some p => setFlag (List.replicate config.size.total false) p
  | none => List.replicate config.size.total false

namespace Card

/-- The flags of the cells that count as complete. -/
def completeFlags (card : Card) : List Bool :=
  (card.items.filter (·.completed)).foldl (fun flags item => setFlag flags item.position)
    card.config.freeFlags

/-- The lines all of whose cells are complete, in the order of the lines. -/
def bingos (card : Card) : List Line :=
  let flags := card.completeFlags
  card.config.size.lines.filter fun line =>
    (line.positions card.config.size).all (isFlagged flags)

end Card

end GoalGrid
