import GoalGrid.Card.Bingo
import GoalGrid.Card.Display
import GoalGrid.Card.Free
/-!
# The program — what commands print

The texts about a card: its table with a line below that sums it up, its
bingos, and what an edit did besides.
-/

namespace GoalGrid.Card

/-- The line that sums a card up. -/
def summary (card : Card) : String :=
  let free := match card.config.free with
    | some p => s!"FREE at {p.index}"
    | none => "no FREE"
  s!"{card.config.size.text} {card.config.phase.name} | " ++
    s!"{card.items.length}/{card.config.capacity} goals | {free}\n"

/-- The table of a card and the line that sums it up. -/
def render (card : Card) (cellWidth : Nat) : Except CardError String := do
  let board ← Board.ofCard card
  return board.display card.config card.items cellWidth ++ card.summary

/-- The bingos of a card, one to a line. -/
def bingoReport (card : Card) : String :=
  match card.bingos with
  | [] => "No bingos yet.\n"
  | lines =>
    s!"{lines.length} bingo(s):\n" ++ String.join (lines.map fun line => s!"  {line.text}\n")

end GoalGrid.Card

namespace GoalGrid

/-- The line about an item that gave way. -/
def Displacement.report : Option Displacement → String
  | some d => s!"Displaced: {d.text}\n"
  | none => ""

end GoalGrid
