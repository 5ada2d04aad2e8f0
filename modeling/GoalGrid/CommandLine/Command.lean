import GoalGrid.Grid.Position
/-!
# Command line — commands

What a user can ask for: one command, and the files that it works on.
-/

namespace GoalGrid

/-- A command. -/
inductive Command where
  /-- Starts a new card. -/
  | create (size : Option Nat) (header : Option String) (noFree force : Bool)
  /-- Prints the card. -/
  | print
  /-- Adds a goal, in a cell or anywhere. -/
  | add (content : String) (position : Option Position)
  /-- Removes the goal of a cell. -/
  | remove (position : Position)
  /-- Marks the goal of a cell as reached, or takes the mark back. -/
  | complete (position : Position) (undo : Bool)
  /-- Changes the header. -/
  | header (text : String)
  /-- Changes the size of the grid. -/
  | resize (size : Nat)
  /-- Puts FREE on the card. -/
  | enableFree
  /-- Takes FREE off the card. -/
  | disableFree
  /-- Moves FREE to a cell. -/
  | moveFree (position : Position)
  /-- Shuffles the goals. -/
  | shuffle
  /-- Exchanges two cells. -/
  | swap (a b : Position)
  /-- Lists the bingos. -/
  | bingos
  /-- Finalizes the card. -/
  | finalize
  /-- Copies the goals to a new card in another file. -/
  | copy (out : String) (size : Option Nat) (noFree : Bool)
deriving DecidableEq, Repr

/-- A command line: a command, the settings file and the card file. -/
structure CommandLine where
  config : String
  card : String
  command : Command
deriving DecidableEq, Repr

end GoalGrid
