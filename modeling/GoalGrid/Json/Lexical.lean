import GoalGrid.Json.Error
import GoalGrid.Text.Digits
/-!
# JSON — blanks, words and strings

The smallest parts of a JSON text. Each reader takes the characters that
are left and gives back what it read and what is left after it.
-/

namespace GoalGrid.Json

/-- Reads a value off the front of a text. -/
abbrev Reader (α : Type) : Type :=
  List Char → Except Error (α × List Char)

/-- The white space that JSON allows between its parts. -/
def isSpace (c : Char) : Bool :=
  c == ' ' || c == '\n' || c == '\t' || c == '\r'

/-- The text from its first character on that is no white space. -/
def skipSpace (cs : List Char) : List Char :=
  cs.dropWhile isSpace

/-- Takes these characters off the front of the text. -/
def word (expected : List Char) (cs : List Char) : Except Error (List Char) :=
  if expected.isPrefixOf cs then .ok (cs.drop expected.length) else .error .malformed

/-! ## Strings -/

/-- The value of four hexadecimal digits. -/
def hexUnit? (a b c d : Char) : Option Nat := do
  let a ← Text.hexValue? a
  let b ← Text.hexValue? b
  let c ← Text.hexValue? c
  let d ← Text.hexValue? d
  return ((a * 16 + b) * 16 + c) * 16 + d

/-- Whether a unit is the first half of a pair. -/
def isHighUnit (n : Nat) : Bool :=
  0xd800 ≤ n && n < 0xdc00

/-- Whether a unit is the second half of a pair. -/
def isLowUnit (n : Nat) : Bool :=
  0xdc00 ≤ n && n < 0xe000

/-- The character that two halves stand for. -/
def pairChar (high low : Nat) : Char :=
  Char.ofNat (0x10000 + (high - 0xd800) * 0x400 + (low - 0xdc00))

/-- What a letter after a backslash stands for. -/
def simpleEscape? (c : Char) : Option Char :=
  match c with
  | '"' => some '"'
  | '\\' => some '\\'
  | '/' => some '/'
  | 'b' => some '\x08'
  | 'f' => some '\x0c'
  | 'n' => some '\n'
  | 'r' => some '\r'
  | 't' => some '\t'
  | _ => none

/-- Puts a character before what is read after it. -/
def consRead (c : Char) :
    Except Error (List Char × List Char) → Except Error (List Char × List Char)
  | .ok (cs, rest) => .ok (c :: cs, rest)
  | .error e => .error e

/-- Reads the characters of a string up to its closing quote. Control
characters and halves of pairs on their own are malformed. -/
def readChars : List Char → Except Error (List Char × List Char)
  | [] => .error .malformed
  | '"' :: rest => .ok ([], rest)
  | '\\' :: 'u' :: a :: b :: c :: d :: rest =>
    match hexUnit? a b c d with
    | none => .error .malformed
    | some n =>
      if isHighUnit n then
        match rest with
        | '\\' :: 'u' :: a :: b :: c :: d :: rest =>
          match hexUnit? a b c d with
          | some m =>
            if isLowUnit m then consRead (pairChar n m) (readChars rest) else .error .malformed
          | none => .error .malformed
        | _ => .error .malformed
      else if isLowUnit n then .error .malformed
      else consRead (Char.ofNat n) (readChars rest)
  | '\\' :: e :: rest =>
    match simpleEscape? e with
    | some c => consRead c (readChars rest)
    | none => .error .malformed
  | c :: rest => if c.toNat < 0x20 then .error .malformed else consRead c (readChars rest)

/-- Reads a string from after its opening quote. -/
def readString : Reader String := fun cs => do
  let (chars, rest) ← readChars cs
  return (String.ofList chars, rest)

/-- Passes over the characters of a string up to its closing quote. What
the escapes with digits stand for does not matter here. -/
def skipChars : List Char → Except Error (List Char)
  | [] => .error .malformed
  | '"' :: rest => .ok rest
  | '\\' :: 'u' :: a :: b :: c :: d :: rest =>
    match hexUnit? a b c d with
    | some _ => skipChars rest
    | none => .error .malformed
  | '\\' :: e :: rest =>
    match simpleEscape? e with
    | some _ => skipChars rest
    | none => .error .malformed
  | c :: rest => if c.toNat < 0x20 then .error .malformed else skipChars rest

end GoalGrid.Json
