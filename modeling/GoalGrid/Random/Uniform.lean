import GoalGrid.Random.Generator
/-!
# Chance — uniform draws

Drawing a number below a bound without favouring any: a word times the
bound is a number with as many high bits as low bits, its high half is the
draw, and the word is thrown away when its low half lies beyond the last
whole multiple (`zone`). A draw below one takes a word like any other.
-/

namespace GoalGrid

/-- How many bits a draw takes from the generator at a time. -/
inductive DrawWidth where
  | bits32
  | bits64
deriving DecidableEq, Repr

namespace DrawWidth

/-- The number of bits. -/
def bits : DrawWidth → Nat
  | bits32 => 32
  | bits64 => 64

/-- One past the largest number with that many bits. -/
def range (w : DrawWidth) : Nat :=
  Nat.pow 2 w.bits

/-- Takes that many bits. -/
def take : DrawWidth → Generator → Nat × Generator
  | bits32, g => g.next32
  | bits64, g => g.next64

/-- The largest low half that a draw below `r` accepts: `r` with its leading
zeros shifted out, less one. -/
def zone (w : DrawWidth) (r : Nat) : Nat :=
  r * Nat.pow 2 (w.bits - 1 - r.log2) - 1

end DrawWidth

namespace Generator

/-- Draws below `r`, throwing away at most `tries` words. -/
def drawWithin (w : DrawWidth) (r : Nat) : Nat → Generator → Nat × Generator
  | 0, g => (0, g)
  | tries + 1, g =>
    let (v, rest) := w.take g
    if v * r % w.range ≤ w.zone r then (v * r / w.range, rest)
    else drawWithin w r tries rest

/-- Draws a number below `r`. After the end of the tape every word is zero,
and a zero is accepted, so that a draw needs no more tries than there are
words left. -/
def draw (w : DrawWidth) (r : Nat) (g : Generator) : Nat × Generator :=
  drawWithin w r (g.remaining + 1) g

/-- Chooses an entry of the list; from an empty list nothing is drawn. -/
def choose (xs : List α) (g : Generator) : Option α × Generator :=
  if xs.isEmpty then (none, g)
  else
    let (i, rest) := g.draw .bits32 xs.length
    (xs[i]?, rest)

end Generator

end GoalGrid
