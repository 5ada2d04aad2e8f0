import GoalGrid.Toml.Lexical
import GoalGrid.Text.FloatRange
/-!
# TOML — numbers, truth values, dates and times

The values that are written without quotes. Each is a run of letters,
digits and a few signs, and what it stands for is decided for the run as
a whole.
-/

namespace GoalGrid.Toml

/-! ## Digits -/

/-- The digits of a run without the underscores between them; an underscore
has a digit on either side. -/
def plainDigits? (isDigit : Char → Bool) : List Char → Option (List Char)
  | [] => none
  | [c] => if isDigit c then some [c] else none
  | c :: '_' :: rest => if isDigit c then (c :: ·) <$> plainDigits? isDigit rest else none
  | c :: rest => if isDigit c then (c :: ·) <$> plainDigits? isDigit rest else none

/-- A sign at the front of a run: whether it is a minus, and the rest. -/
def splitSign : List Char → Bool × List Char
  | '+' :: rest => (false, rest)
  | '-' :: rest => (true, rest)
  | cs => (false, cs)

/-- The digits of a decimal number before the point: a zero stands alone. -/
def wholeDigits? (cs : List Char) : Option (List Char) :=
  match cs with
  | '0' :: _ :: _ => none
  | cs => plainDigits? Char.isDigit cs

/-! ## Integers -/

/-- The integer that a run stands for; it has to fit 128 bits, signed or
not. -/
def integer? (cs : List Char) : Option Int :=
  let inBase (base : Nat) (cs : List Char) : Option Int :=
    (fun digits => ((Text.digitsValue base digits : Nat) : Int)) <$>
      plainDigits? (Text.isDigitIn base) cs
  let value := match cs with
    | '0' :: 'x' :: rest => inBase 16 rest
    | '0' :: 'o' :: rest => inBase 8 rest
    | '0' :: 'b' :: rest => inBase 2 rest
    | cs => do
      let (minus, rest) := splitSign cs
      let digits ← wholeDigits? rest
      let n : Int := (Text.digitsValue 10 digits : Nat)
      return if minus then -n else n
  match value with
  | some n => if -(Nat.pow 2 127 : Nat) ≤ n ∧ n < (Nat.pow 2 128 : Nat) then some n else none
  | none => none

/-! ## Floating-point numbers -/

/-- Whether `mantissa · 10 ^ exponent` rounds to infinity. -/
def roundsToInfinity (mantissa : Nat) (exponent : Int) : Bool :=
  let magnitude : Int := ((Nat.toDigits 10 mantissa).length : Int) + exponent
  if mantissa = 0 ∨ magnitude < 309 then false
  else if 309 < magnitude then true
  else if 0 ≤ exponent then Text.floatLimit ≤ mantissa * Nat.pow 10 exponent.toNat
  else Text.floatLimit * Nat.pow 10 (-exponent).toNat ≤ mantissa

/-- The parts of a run before, between and after a point and an exponent
mark: digits before the point, digits after it, and the exponent. -/
def splitFloat (cs : List Char) : List Char × Option (List Char) × Option (List Char) :=
  let isMark (c : Char) : Bool := c == 'e' || c == 'E'
  let mantissa := cs.takeWhile (!isMark ·)
  let exponent := match cs.dropWhile (!isMark ·) with
    | _ :: rest => some rest
    | [] => none
  let whole := mantissa.takeWhile (· ≠ '.')
  let fraction := match mantissa.dropWhile (· ≠ '.') with
    | _ :: rest => some rest
    | [] => none
  (whole, fraction, exponent)

/-- Whether a run is a floating-point number: one with a point or an
exponent that is not too large, an infinity, or no number. -/
def isFloat (cs : List Char) : Bool :=
  let (_, rest) := splitSign cs
  if rest = "inf".toList ∨ rest = "nan".toList then true
  else
    let (whole, fraction, exponent) := splitFloat rest
    let parsed : Option (Nat × Int) := do
      let whole ← wholeDigits? whole
      let fraction ← match fraction with
        | some cs => plainDigits? Char.isDigit cs
        | none => if exponent.isNone then none else some []
      let exponent : Int ← match exponent with
        | some cs =>
          let (minus, rest) := splitSign cs
          let n : Int := (Text.digitsValue 10 (← plainDigits? Char.isDigit rest) : Nat)
          pure (if minus then -n else n)
        | none => some 0
      return (Text.digitsValue 10 (whole ++ fraction), exponent - fraction.length)
    match parsed with
    | some (mantissa, exponent) => !roundsToInfinity mantissa exponent
    | none => false

/-! ## Dates and times -/

/-- Reads a number of exactly so many digits. -/
def fixedNumber (digits : Nat) : Reader Nat := fun cs =>
  let front := cs.take digits
  if front.length = digits ∧ front.all Char.isDigit then
    some (Text.digitsValue 10 front, cs.drop digits)
  else none

/-- The text after this character. -/
def after? (c : Char) : List Char → Option (List Char)
  | d :: rest => if c = d then some rest else none
  | [] => none

/-- The number of days of a month. -/
def daysOf (year month : Nat) : Nat :=
  match month with
  | 2 => if year % 4 = 0 ∧ (year % 100 ≠ 0 ∨ year % 400 = 0) then 29 else 28
  | 4 | 6 | 9 | 11 => 30
  | _ => 31

/-- The text after a date that is in the calendar. -/
def date? (cs : List Char) : Option (List Char) := do
  let (year, cs) ← fixedNumber 4 cs
  let (month, cs) ← fixedNumber 2 (← after? '-' cs)
  let (day, cs) ← fixedNumber 2 (← after? '-' cs)
  if 1 ≤ month ∧ month ≤ 12 ∧ 1 ≤ day ∧ day ≤ daysOf year month then some cs else none

/-- The text after the digits of a fraction, if there is one. -/
def fraction? (cs : List Char) : Option (List Char) :=
  match cs with
  | '.' :: rest =>
    if rest.takeWhile Char.isDigit = [] then none else some (rest.dropWhile Char.isDigit)
  | cs => some cs

/-- The text after a time of day; the seconds may be left out. -/
def time? (cs : List Char) : Option (List Char) := do
  let (hour, cs) ← fixedNumber 2 cs
  let (minute, cs) ← fixedNumber 2 (← after? ':' cs)
  if 23 < hour ∨ 59 < minute then none
  match cs with
  | ':' :: rest =>
    let (second, rest) ← fixedNumber 2 rest
    if 60 < second then none
    fraction? rest
  | cs => some cs

/-- The text after the hours and minutes of a distance. -/
def distance? (cs : List Char) : Option (List Char) := do
  let (hour, cs) ← fixedNumber 2 cs
  let (minute, cs) ← fixedNumber 2 (← after? ':' cs)
  if hour ≤ 23 ∧ minute ≤ 59 then some cs else none

/-- The text after the distance from universal time, if there is one. -/
def offset? (cs : List Char) : Option (List Char) :=
  match cs with
  | 'Z' :: rest => some rest
  | 'z' :: rest => some rest
  | '+' :: rest => distance? rest
  | '-' :: rest => distance? rest
  | cs => some cs

/-- Whether a run is a date, a time of day, or both with or without the
distance from universal time. -/
def isMoment (cs : List Char) : Bool :=
  match date? cs with
  | some [] => true
  | some (c :: rest) =>
    (c == 'T' || c == 't' || c == ' ') && ((time? rest).bind offset?) == some []
  | none => time? cs == some []

end GoalGrid.Toml
