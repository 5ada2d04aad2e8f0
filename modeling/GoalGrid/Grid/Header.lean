import GoalGrid.Grid.Size
import GoalGrid.Text.Blank
import GoalGrid.Text.Upper
/-!
# Grids — header text

The header stands above the columns, one character to a column. It is
kept in normal form: no white space at its ends, in full uppercase, and
between one character and as many as there are columns.
-/

namespace GoalGrid.GridSize

/-- The word whose first letters head a card without a header of its own. -/
def headerWord : String := "BINGO"

/-- The letters of the header word that fit the columns. -/
def defaultHeader (size : GridSize) : String :=
  String.ofList (headerWord.toList.take size.side)

/-- The normal form of a header, or its length when that does not fit. -/
def normalizeHeader (size : GridSize) (text : String) : Except CardError String :=
  let header := Text.upper (Text.trim text)
  if 1 ≤ header.length ∧ header.length ≤ size.side then .ok header
  else .error (.invalidHeaderLength header.length size.side)

/-- The header of a card that moves from the grid `old` to the grid `new`:
a default header follows the size, another one stays if it fits. -/
def resizedHeader (header : String) (old new : GridSize) : String :=
  if header = old.defaultHeader then new.defaultHeader
  else
    match new.normalizeHeader header with
    | .ok kept => kept
    | .error _ => new.defaultHeader

end GoalGrid.GridSize
