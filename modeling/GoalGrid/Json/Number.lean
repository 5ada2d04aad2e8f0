import GoalGrid.Json.Lexical
import GoalGrid.Text.Decimal
import GoalGrid.Text.FloatRange
/-!
# JSON — numbers

The written form of a number, and as much of its value as the readers of
cards tell apart: whole numbers that fit a word, and all others. A number
too large for floating point is malformed.
-/

namespace GoalGrid.Json

/-- A number as far as its readers tell numbers apart. -/
inductive Number where
  /-- A whole number without a sign that fits a word. -/
  | natural (n : Nat)
  /-- A whole number below zero that fits a signed word; `n` is its size. -/
  | negative (n : Nat)
  /-- Any other number. -/
  | other
deriving DecidableEq, Repr

/-- The written form of a number: its sign, the digits before and after the
point, and the sign and digits of the exponent. -/
structure Numeral where
  minus : Bool
  whole : List Char
  fraction : List Char
  exponentMinus : Bool
  exponent : List Char
  /-- Whether a point or an exponent is written. -/
  isWhole : Bool
deriving Repr

/-- The digits at the front of a text, and the rest. -/
def takeDigits (cs : List Char) : List Char × List Char :=
  (cs.takeWhile Char.isDigit, cs.dropWhile Char.isDigit)

/-- One digit or more at the front of a text, and the rest. -/
def someDigits (cs : List Char) : Except Error (List Char × List Char) :=
  match takeDigits cs with
  | ([], _) => .error .malformed
  | digits => .ok digits

/-- The digits before the point: zero, or no leading zero. -/
def wholeDigits (cs : List Char) : Except Error (List Char × List Char) :=
  match someDigits cs with
  | .ok ('0' :: _ :: _, _) => .error .malformed
  | other => other

/-- The digits after the point, if there is a point. -/
def fractionDigits (cs : List Char) : Except Error (Option (List Char) × List Char) :=
  match cs with
  | '.' :: rest => do
    let (digits, rest) ← someDigits rest
    return (some digits, rest)
  | cs => .ok (none, cs)

/-- The sign and digits of the exponent, if there is one. -/
def exponentDigits (cs : List Char) : Except Error (Option (Bool × List Char) × List Char) :=
  match cs with
  | e :: rest =>
    if e = 'e' ∨ e = 'E' then do
      let (minus, rest) := match rest with
        | '+' :: rest => (false, rest)
        | '-' :: rest => (true, rest)
        | rest => (false, rest)
      let (digits, rest) ← someDigits rest
      return (some (minus, digits), rest)
    else .ok (none, cs)
  | [] => .ok (none, [])

/-- Reads the written form of a number. -/
def readNumeral : Reader Numeral := fun cs => do
  let (minus, cs) := match cs with
    | '-' :: rest => (true, rest)
    | cs => (false, cs)
  let (whole, cs) ← wholeDigits cs
  let (fraction, cs) ← fractionDigits cs
  let (exponent, cs) ← exponentDigits cs
  let (exponentMinus, exponentDigits) := exponent.getD (false, [])
  return ({ minus, whole, fraction := fraction.getD [], exponentMinus,
            exponent := exponentDigits, isWhole := fraction.isNone && exponent.isNone }, cs)

/-- Reads digits onto `value` as long as it fits a word; gives the value and
the number of digits left over. -/
def leadingDigits (value : Nat) : List Char → Nat × Nat
  | [] => (value, 0)
  | c :: rest =>
    let next := value * 10 + Text.digitsValue 10 [c]
    if next < Text.wordLimit then leadingDigits next rest else (value, rest.length + 1)

namespace Numeral

/-- The leading digits of the number that fit a word, and the power of ten
that they are multiplied by. -/
def scaled (n : Numeral) : Nat × Int :=
  let (significand, dropped) := leadingDigits 0 n.whole
  let (significand, left) := leadingDigits significand n.fraction
  let exponent : Int := (Text.digitsValue 10 n.exponent : Nat)
  (significand, (dropped : Int) - ((n.fraction.length - left : Nat) : Int) +
    if n.exponentMinus then -exponent else exponent)

/-- Whether the number is too large for a floating-point number: the digits
and the power of ten are rounded each on its own, and so is their product. -/
def overflows (n : Numeral) : Bool :=
  let (significand, exponent) := n.scaled
  significand != 0 && 0 ≤ exponent &&
    (308 < exponent ||
      Text.floatLimit ≤ Text.roundFloat significand * Text.roundFloat (Nat.pow 10 exponent.toNat))

/-- The number that is written: a whole number if it fits a word, with a
minus sign if it fits a signed word and is not zero. -/
def number (n : Numeral) : Except Error Number :=
  let value := Text.digitsValue 10 n.whole
  if n.isWhole ∧ n.minus = false ∧ value < Text.wordLimit then .ok (.natural value)
  else if n.isWhole ∧ n.minus = true ∧ 0 < value ∧ value ≤ Text.wordLimit / 2 then
    .ok (.negative value)
  else if n.overflows then .error .malformed
  else .ok .other

end Numeral

/-- Reads a number. -/
def readNumber : Reader Number := fun cs => do
  let (numeral, rest) ← readNumeral cs
  let number ← numeral.number
  return (number, rest)

end GoalGrid.Json
