/-!
# Text — the range of floating-point numbers

Which numbers are too large for a floating-point number of 64 bits, in
exact arithmetic. Such a number has 53 significant bits; a number that
needs more is rounded to the nearest one, and of two equally near ones to
the one with an even last bit.
-/

namespace GoalGrid.Text

/-- The significant bits of a floating-point number. -/
def floatBits : Nat := 53

/-- The nearest number with that many significant bits. -/
def roundFloat (n : Nat) : Nat :=
  let unit := Nat.pow 2 (n.log2 + 1 - floatBits)
  let below := n / unit
  let excess := n % unit
  if unit < 2 * excess ∨ (2 * excess = unit ∧ below % 2 = 1) then (below + 1) * unit
  else below * unit

/-- The smallest number that rounds to infinity: it lies halfway between the
largest finite one and the next power of two. -/
def floatLimit : Nat := Nat.pow 2 1024 - Nat.pow 2 970

end GoalGrid.Text
