import GoalGrid.Text.Digits
/-!
# JSON — values as text

JSON values with their members in order, and the two ways of writing
them: compact, without any white space, and pretty, with a line for every
element and member, indented by two blanks for each level.
-/

namespace GoalGrid

/-- A JSON value; numbers are the natural ones. -/
inductive Json where
  | null
  | bool (b : Bool)
  | number (n : Nat)
  | string (s : String)
  | array (elements : List Json)
  | object (members : List (String × Json))
deriving Repr

namespace Json

/-- One character inside a string: quotes, backslashes and controls are
written as escapes. -/
def escapeChar (c : Char) : List Char :=
  match c with
  | '"' => ['\\', '"']
  | '\\' => ['\\', '\\']
  | '\x08' => ['\\', 'b']
  | '\x0c' => ['\\', 'f']
  | '\n' => ['\\', 'n']
  | '\r' => ['\\', 'r']
  | '\t' => ['\\', 't']
  | c =>
    if c.toNat < 0x20 then
      ['\\', 'u', '0', '0', Text.hexDigit (c.toNat / 16),
        Text.hexDigit (c.toNat % 16)]
    else [c]

/-- A string between quotes. -/
def stringText (s : String) : List Char :=
  '"' :: s.toList.flatMap escapeChar ++ ['"']

/-- The decimal digits of a number. -/
def numberText (n : Nat) : List Char :=
  Nat.toDigits 10 n

/-- A truth value. -/
def boolText (b : Bool) : List Char :=
  if b then "true".toList else "false".toList

/-! ## Compact text -/

mutual

/-- A value without white space. -/
def compactText : Json → List Char
  | null => "null".toList
  | bool b => boolText b
  | number n => numberText n
  | string s => stringText s
  | array elements => '[' :: compactElements elements ++ [']']
  | object members => '\x7b' :: compactMembers members ++ ['\x7d']

/-- The elements of an array, with commas between them. -/
def compactElements : List Json → List Char
  | [] => []
  | [v] => compactText v
  | v :: vs => compactText v ++ ',' :: compactElements vs

/-- The members of an object, with commas between them. -/
def compactMembers : List (String × Json) → List Char
  | [] => []
  | [(name, v)] => stringText name ++ ':' :: compactText v
  | (name, v) :: rest => stringText name ++ ':' :: compactText v ++ ',' :: compactMembers rest

end

/-! ## Pretty text -/

/-- A new line at this level. -/
def lineBreak (level : Nat) : List Char :=
  '\n' :: List.replicate (2 * level) ' '

mutual

/-- A value that starts on a line of this level. -/
def prettyText (level : Nat) : Json → List Char
  | null => "null".toList
  | bool b => boolText b
  | number n => numberText n
  | string s => stringText s
  | array [] => ['[', ']']
  | array elements => '[' :: prettyElements (level + 1) elements ++ lineBreak level ++ [']']
  | object [] => ['\x7b', '\x7d']
  | object members =>
    '\x7b' :: prettyMembers (level + 1) members ++ lineBreak level ++ ['\x7d']

/-- The elements of an array, each on a line of this level. -/
def prettyElements (level : Nat) : List Json → List Char
  | [] => []
  | [v] => lineBreak level ++ prettyText level v
  | v :: vs => lineBreak level ++ prettyText level v ++ ',' :: prettyElements level vs

/-- The members of an object, each on a line of this level. -/
def prettyMembers (level : Nat) : List (String × Json) → List Char
  | [] => []
  | [(name, v)] => lineBreak level ++ stringText name ++ ':' :: ' ' :: prettyText level v
  | (name, v) :: rest =>
    lineBreak level ++ stringText name ++ ':' :: ' ' :: prettyText level v ++
      ',' :: prettyMembers level rest

end

/-- The compact text of a value. -/
def compact (v : Json) : String :=
  String.ofList v.compactText

/-- The pretty text of a value. -/
def pretty (v : Json) : String :=
  String.ofList (v.prettyText 0)

end Json

end GoalGrid
