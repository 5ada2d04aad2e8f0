import GoalGrid.Text.Digits
/-!
# TOML — blanks, comments, strings and names

The smallest parts of a document. A reader takes the characters that are
left and gives what it read and what is left after it, or nothing when
the text is no TOML.
-/

namespace GoalGrid.Toml

/-- Reads a value off the front of a text. -/
abbrev Reader (α : Type) : Type :=
  List Char → Option (α × List Char)

/-! ## Blanks and lines -/

/-- The white space inside a line. -/
def isSpace (c : Char) : Bool :=
  c == ' ' || c == '\t'

/-- The text from its first character on that is no space. -/
def skipSpace (cs : List Char) : List Char :=
  cs.dropWhile isSpace

/-- Whether a character may stand in a comment or between quotes as
itself. -/
def isPlain (c : Char) : Bool :=
  c == '\t' || (0x20 ≤ c.toNat && c.toNat != 0x7f)

/-- The text after the end of a line. -/
def newline? : List Char → Option (List Char)
  | '\n' :: rest => some rest
  | '\r' :: '\n' :: rest => some rest
  | _ => none

/-- The text from the end of the line on, when nothing but space and a
comment stands before it. -/
def skipComment (cs : List Char) : List Char :=
  match skipSpace cs with
  | '#' :: rest => rest.dropWhile isPlain
  | rest => rest

/-- The text of the next line, when this one holds nothing more; at the end
of the document there is none. -/
def endLine (cs : List Char) : Option (List Char) :=
  match skipComment cs with
  | [] => some []
  | rest => newline? rest

/-- Passes over space, comments and line ends, from outside or inside a
comment. -/
def skipGapFrom : Bool → List Char → List Char
  | _, '\r' :: '\n' :: rest => skipGapFrom false rest
  | inComment, c :: rest =>
    if c = '\n' then skipGapFrom false rest
    else if inComment then if isPlain c then skipGapFrom true rest else c :: rest
    else if isSpace c then skipGapFrom false rest
    else if c = '#' then skipGapFrom true rest
    else c :: rest
  | _, [] => []

/-- The text from the next part of an array or a table in braces on, however
many lines below it is. -/
def skipGap (cs : List Char) : List Char :=
  skipGapFrom false cs

/-! ## Strings -/

/-- The number that hexadecimal digits stand for. -/
def hexNumber? (digits : List Char) : Option Nat :=
  digits.foldlM (fun n c => (n * 16 + ·) <$> Text.hexValue? c) 0

/-- The character with this number. -/
def scalarChar? (n : Nat) : Option Char :=
  if n.isValidChar then some (Char.ofNat n) else none

/-- Reads the character with a number of so many hexadecimal digits. -/
def numberedChar (digits : Nat) : Reader Char := fun cs => do
  if cs.length < digits then none
  let c ← scalarChar? (← hexNumber? (cs.take digits))
  return (c, cs.drop digits)

/-- Reads an escape from after its backslash. -/
def readEscape : Reader Char
  | 'b' :: rest => some ('\x08', rest)
  | 't' :: rest => some ('\t', rest)
  | 'n' :: rest => some ('\n', rest)
  | 'f' :: rest => some ('\x0c', rest)
  | 'r' :: rest => some ('\r', rest)
  | 'e' :: rest => some ('\x1b', rest)
  | '"' :: rest => some ('"', rest)
  | '\\' :: rest => some ('\\', rest)
  | 'x' :: rest => numberedChar 2 rest
  | 'u' :: rest => numberedChar 4 rest
  | 'U' :: rest => numberedChar 8 rest
  | _ => none

/-- Puts characters before what is read after them. -/
def prepend (front : List Char) : Option (List Char × List Char) → Option (List Char × List Char)
  | some (cs, rest) => some (front ++ cs, rest)
  | none => none

/-- Reads a string between quotes from after the opening one; `fuel` bounds
its length. -/
def readBasic : Nat → Reader (List Char)
  | 0, _ => none
  | fuel + 1, cs =>
    match cs with
    | '"' :: rest => some ([], rest)
    | '\\' :: rest => do
      let (c, rest) ← readEscape rest
      prepend [c] (readBasic fuel rest)
    | c :: rest => if isPlain c then prepend [c] (readBasic fuel rest) else none
    | [] => none

/-- Reads a string between apostrophes from after the opening one. -/
def readLiteral : Reader (List Char)
  | '\'' :: rest => some ([], rest)
  | c :: rest => if isPlain c then prepend [c] (readLiteral rest) else none
  | [] => none

/-- The text from its first character on that is neither space nor part of
the end of a line. -/
def skipBlankLines : List Char → List Char
  | '\r' :: '\n' :: rest => skipBlankLines rest
  | c :: rest => if isSpace c || c == '\n' then skipBlankLines rest else c :: rest
  | [] => []

/-- Whether a line that ends in a backslash goes on: the text after the
white space that the backslash takes away. -/
def continuation? (cs : List Char) : Option (List Char) :=
  skipBlankLines <$> newline? (skipSpace cs)

/-- Reads a string of several lines between tripled quotes, from its first
line on. Up to two quotes may stand right before the closing ones. -/
def readLongBasic : Nat → Reader (List Char)
  | 0, _ => none
  | fuel + 1, cs =>
    match cs with
    | '"' :: '"' :: '"' :: '"' :: '"' :: rest => some (['"', '"'], rest)
    | '"' :: '"' :: '"' :: '"' :: rest => some (['"'], rest)
    | '"' :: '"' :: '"' :: rest => some ([], rest)
    | '\\' :: rest =>
      match continuation? rest with
      | some rest => readLongBasic fuel rest
      | none => do
        let (c, rest) ← readEscape rest
        prepend [c] (readLongBasic fuel rest)
    | c :: rest =>
      if isPlain c then prepend [c] (readLongBasic fuel rest)
      else do
        let rest ← newline? (c :: rest)
        prepend ['\n'] (readLongBasic fuel rest)
    | [] => none

/-- Reads a string of several lines between tripled apostrophes, from its
first line on. -/
def readLongLiteral : Nat → Reader (List Char)
  | 0, _ => none
  | fuel + 1, cs =>
    match cs with
    | '\'' :: '\'' :: '\'' :: '\'' :: '\'' :: rest => some (['\'', '\''], rest)
    | '\'' :: '\'' :: '\'' :: '\'' :: rest => some (['\''], rest)
    | '\'' :: '\'' :: '\'' :: rest => some ([], rest)
    | c :: rest =>
      if isPlain c then prepend [c] (readLongLiteral fuel rest)
      else do
        let rest ← newline? (c :: rest)
        prepend ['\n'] (readLongLiteral fuel rest)
    | [] => none

/-- The first line of a string of several lines; a line end right after the
opening quotes is no part of it. -/
def firstLine (cs : List Char) : List Char :=
  (newline? cs).getD cs

/-- Reads a string, whichever quotes it has. -/
def readString : Reader String := fun cs => do
  let (chars, rest) ← match cs with
    | '"' :: '"' :: '"' :: rest => readLongBasic (rest.length + 1) (firstLine rest)
    | '\'' :: '\'' :: '\'' :: rest => readLongLiteral (rest.length + 1) (firstLine rest)
    | '"' :: rest => readBasic (rest.length + 1) rest
    | '\'' :: rest => readLiteral rest
    | _ => none
  return (String.ofList chars, rest)

/-! ## Names -/

/-- Whether a character may stand in a name without quotes. -/
def isBare (c : Char) : Bool :=
  c.isAlphanum || c == '_' || c == '-'

/-- Reads one part of a name. -/
def readSimpleKey : Reader String := fun cs =>
  match cs with
  | '"' :: rest => do
    let (chars, rest) ← readBasic (rest.length + 1) rest
    return (String.ofList chars, rest)
  | '\'' :: rest => do
    let (chars, rest) ← readLiteral rest
    return (String.ofList chars, rest)
  | cs =>
    match cs.takeWhile isBare with
    | [] => none
    | chars => some (String.ofList chars, cs.dropWhile isBare)

/-- Reads a dotted name: the parts before the last one, and the last one.
Spaces may stand around the dots and after the name. -/
def readKeyWithin : Nat → Reader (List String × String)
  | 0, _ => none
  | fuel + 1, cs => do
    let (key, rest) ← readSimpleKey (skipSpace cs)
    match skipSpace rest with
    | '.' :: rest =>
      let ((path, last), rest) ← readKeyWithin fuel rest
      return ((key :: path, last), rest)
    | rest => return (([], key), rest)

/-- How deep tables and arrays may lie in one another: the most brackets and
braces around a value, and the most parts of a name. -/
def maxDepth : Nat := 80

/-- Reads a dotted name that is not too long. Each part takes a character, so
that the length of the text is fuel enough. -/
def readKey : Reader (List String × String) := fun cs => do
  let ((path, key), rest) ← readKeyWithin (cs.length + 1) cs
  if maxDepth ≤ path.length then none
  return ((path, key), rest)

end GoalGrid.Toml
