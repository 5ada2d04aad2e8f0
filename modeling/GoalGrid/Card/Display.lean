import GoalGrid.Card.Board
/-!
# Cards — boards as text

A board is drawn as a table: a line with the letters of the header, then
the rows, with a rule below each of them. Every cell is a field of the
same width, two blanks apart from the bars at its sides.
-/

namespace GoalGrid

/-- A text on the left of a field, cut where the field ends. -/
def leftField (width : Nat) (cs : List Char) : List Char :=
  let shown := cs.take width
  shown ++ List.replicate (width - shown.length) ' '

/-- A text in the middle of a field; an odd blank goes to the right. -/
def centerField (width : Nat) (cs : List Char) : List Char :=
  let gap := width - cs.length
  List.replicate (gap / 2) ' ' ++ cs ++ List.replicate (gap - gap / 2) ' '

/-- Fields between bars, as one line. -/
def barLine (fields : List (List Char)) : List Char :=
  '|' :: fields.flatMap (fun field => ' ' :: field ++ [' ', '|']) ++ ['\n']

/-- The rule below a line of `side` fields. -/
def ruleLine (side width : Nat) : List Char :=
  '+' :: (List.range side).flatMap (fun _ => List.replicate (width + 2) '-' ++ ['+']) ++ ['\n']

namespace Item

/-- An item is shown as a box, ticked when it is completed, and its text. -/
def shown (item : Item) : List Char :=
  (if item.completed then "[x] " else "[ ] ").toList ++ item.content.toList

end Item

namespace Board

/-- The text of a cell. -/
def cellText (items : List Item) : Option Cell → List Char
  | some .free => "FREE".toList
  | some (.item index) => ((items[index]?).map Item.shown).getD []
  | some .empty | none => []

/-- The smallest width of a field, which FREE needs. -/
def minWidth : Nat := 4

/-- The table of a board, with fields of the width asked for or the
smallest one. -/
def display (board : Board) (config : Config) (items : List Item) (cellWidth : Nat) : String :=
  let width := max cellWidth minWidth
  let side := board.size.side
  let letters := config.header.toList
  let head := (List.range side).map fun column =>
    centerField width (letters[column]?.toList)
  let row (r : Nat) := (List.range side).map fun column =>
    leftField width (cellText items (board.get? (board.size.positionAt r column)))
  let rule := ruleLine side width
  String.ofList <| barLine head ++ rule ++
    (List.range side).flatMap fun r => barLine (row r) ++ rule

end Board

end GoalGrid
