import GoalGrid.Text.Digits
/-!
# Text — whole numbers written in decimal

Reading a number that has to fit a machine word. Only the ASCII digits
count, one `+` may stand in front, and leading zeros are allowed. A text
that is refused is refused for a reason: it is empty, it holds something
that is no digit, or its digits are already too large.
-/

namespace GoalGrid.Text

/-- Why a text is not the decimal form of a number in range. -/
inductive DecimalError where
  | empty
  | invalidDigit
  | tooLarge
deriving DecidableEq, Repr

/-- The wording of the reason. -/
def DecimalError.message : DecimalError → String
  | .empty => "cannot parse integer from empty string"
  | .invalidDigit => "invalid digit found in string"
  | .tooLarge => "number too large to fit in target type"

/-- One past the largest 64-bit word. -/
def wordLimit : Nat := Nat.pow 2 64

/-- Reads digits from left to right onto `value`; the first character that
is no digit, or the first digit that carries the value to `limit`, ends
the reading. -/
def readDigits (limit value : Nat) : List Char → Except DecimalError Nat
  | [] => .ok value
  | c :: rest =>
    match digitIn? 10 c with
    | none => .error .invalidDigit
    | some d =>
      if value * 10 + d < limit then readDigits limit (value * 10 + d) rest
      else .error .tooLarge

/-- Reads an unsigned number below `limit`. -/
def readUnsigned (limit : Nat) (cs : List Char) : Except DecimalError Nat :=
  match cs with
  | [] => .error .empty
  | ['+'] => .error .invalidDigit
  | '+' :: rest => readDigits limit 0 rest
  | cs => readDigits limit 0 cs

/-- Reads a number below `limit` that may carry a sign; a minus sign leaves
only zero in range. -/
def readSigned (limit : Nat) (cs : List Char) : Except DecimalError Nat :=
  match cs with
  | ['-'] => .error .invalidDigit
  | '-' :: rest => readDigits 1 0 rest
  | cs => readUnsigned limit cs

end GoalGrid.Text
