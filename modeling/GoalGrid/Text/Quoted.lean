import GoalGrid.Text.Blank
import GoalGrid.Text.HiddenTable
/-!
# Text — quoted text in messages

A text as a message shows it: between double quotes, with the characters
that a reader could not see or could misread written as escapes.
-/

namespace GoalGrid.Text

/-- Whether a character is written as a numbered escape. -/
def isHidden (c : Char) : Bool :=
  inRanges hiddenRanges c.toNat

/-- The lower-case hexadecimal digits of a number, without leading zeros. -/
def hexDigits (n : Nat) : List Char :=
  Nat.toDigits 16 n

/-- One character as it stands between the quotes. -/
def quoteChar (c : Char) : List Char :=
  match c with
  | '\x00' => ['\\', '0']
  | '\t' => ['\\', 't']
  | '\n' => ['\\', 'n']
  | '\r' => ['\\', 'r']
  | '"' => ['\\', '"']
  | '\\' => ['\\', '\\']
  | c => if isHidden c then ['\\', 'u', '\x7b'] ++ hexDigits c.toNat ++ ['\x7d'] else [c]

/-- A text between double quotes, with its escapes. -/
def quoted (s : String) : String :=
  String.ofList ('"' :: s.toList.flatMap quoteChar ++ ['"'])

end GoalGrid.Text
