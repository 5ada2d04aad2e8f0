import GoalGrid.Random.Uniform
/-!
# Chance — rearranging and picking

Putting a list into random order, and taking entries from it at random.
Both come in two parts: the numbers that are drawn, and what a list of
numbers does to a list of entries. Chance is in the first part only.
-/

namespace GoalGrid.Random

variable {α : Type}

/-! ## Rearranging -/

/-- Exchanges the entries at two places. -/
def exchange (xs : List α) (i j : Nat) : List α :=
  match xs[i]?, xs[j]? with
  | some x, some y => (xs.set i y).set j x
  | _, _ => xs

/-- Exchanges the last entry with the one at the first number, the last but
one with the one at the second number, and so on down to the entry at
place 1; there is a number for every entry but the first. -/
def rearrange : List Nat → List α → List α
  | [], xs => xs
  | j :: js, xs => rearrange js (exchange xs (js.length + 1) j)

/-- The numbers for `n + 1` entries: below `n + 1`, below `n`, …, below 2. -/
def rearrangement : Nat → Generator → List Nat × Generator
  | 0, g => ([], g)
  | n + 1, g =>
    let (j, g) := g.draw .bits32 (n + 2)
    let (js, g) := rearrangement n g
    (j :: js, g)

/-- Puts a list into random order. -/
def shuffle (xs : List α) (g : Generator) : List α × Generator :=
  let (js, g) := rearrangement (xs.length - 1) g
  (rearrange js xs, g)

/-! ## Picking -/

/-- Takes the entry at a place away and fills the gap with the last one. -/
def swapRemove (xs : List α) (i : Nat) : List α :=
  match xs.getLast? with
  | some last => (xs.set i last).dropLast
  | none => []

/-- Picks entries one after another, each at the place that its number
gives among those left. -/
def pick : List Nat → List α → List α
  | [], _ => []
  | s :: ss, xs =>
    match xs[s]? with
    | some x => x :: pick ss (swapRemove xs s)
    | none => []

/-- The numbers that pick `k` of `m` entries: below `m`, below `m - 1`, … -/
def slots : Nat → Nat → Generator → List Nat × Generator
  | 0, _, g => ([], g)
  | k + 1, m, g =>
    let (s, g) := g.draw .bits64 m
    let (ss, g) := slots k (m - 1) g
    (s :: ss, g)

end GoalGrid.Random
