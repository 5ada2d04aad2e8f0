import GoalGrid.Text.Blank
import GoalGrid.Text.LetterTable
/-!
# Files — variables from a file

The file `.env` sets variables that the environment leaves unset, one to a
line: a name, an equals sign and a value, which may be quoted, may refer
to other variables, and may be followed by a comment. Reading stops for
good at the first line that is not understood; what stands before it
counts. A value with a null character is no value that an environment
takes.
-/

namespace GoalGrid

/-- Variables with their values; the first value of a variable counts. -/
abbrev Variables : Type :=
  List (String × String)

/-- Why an environment does not take a variable. -/
inductive VariableError where
  /-- The value of the variable holds a null character. -/
  | nullInValue (key : String)
deriving DecidableEq, Repr

/-- The wording of the cause. -/
def VariableError.message : VariableError → String
  | nullInValue key => "The value of " ++ key ++ " holds a null character"

namespace Variables

/-! ## Lines -/

/-- Where in a line the reading of a value stands. -/
inductive LineState where
  | complete
  | escape
  | strong
  | strongEscape
  | weak
  | weakEscape
  | comment
  | blank
deriving DecidableEq, Repr

/-- Where the reading stands after one more character; a comment goes on to
the end of the line. -/
def LineState.next (state : LineState) (c : Char) : LineState :=
  match state with
  | .blank =>
    match c with
    | '#' => .comment
    | '\\' => .escape
    | '"' => .weak
    | '\'' => .strong
    | _ => .complete
  | .escape => .complete
  | .complete =>
    if Text.isBlank c && c != '\n' && c != '\r' then .blank
    else
      match c with
      | '\\' => .escape
      | '"' => .weak
      | '\'' => .strong
      | _ => .complete
  | .weak =>
    match c with
    | '\\' => .weakEscape
    | '"' => .complete
    | _ => .weak
  | .weakEscape => .weak
  | .strong =>
    match c with
    | '\\' => .strongEscape
    | '\'' => .complete
    | _ => .strong
  | .strongEscape => .strong
  | .comment => .comment

/-- The characters of a line before its comment, and where the reading
stands at its end. -/
def scanLine (state : LineState) : List Char → List Char × LineState
  | [] => ([], state)
  | c :: cs =>
    match state.next c with
    | .comment => ([], .comment)
    | state =>
      let (front, state) := scanLine state cs
      (c :: front, state)

/-- The lines of a file, each with its line end. -/
def splitLines : List UInt8 → List (List UInt8)
  | [] => []
  | b :: bs =>
    if b = 10 then [b] :: splitLines bs
    else
      match splitLines bs with
      | line :: lines => (b :: line) :: lines
      | [] => [[b]]

/-- The characters of a line, if its bytes are text. -/
def decodeLine (line : List UInt8) : Option (List Char) :=
  (String.fromUTF8? ⟨line.toArray⟩).map String.toList

/-- A line without its line end. -/
def chomp (line : List Char) : List Char :=
  match line.reverse with
  | '\n' :: '\r' :: rest => rest.reverse
  | '\n' :: rest => rest.reverse
  | _ => line

/-- Joins lines to entries: an entry that ends inside quotes or after a
backslash goes on in the next line. A comment is no entry; `none` marks
where the reading stops, at bytes that are no text or at the end of a file
that breaks an entry off. -/
def entriesOf (front : List Char) (state : LineState) :
    List (Option (List Char)) → List (Option (List Char))
  | [] => if state = .complete then [] else [none]
  | none :: _ => [none]
  | some line :: lines =>
    let whole := front ++ line
    if (whole.dropWhile Text.isBlank).head? = some '#' then entriesOf [] .complete lines
    else
      match scanLine state line with
      | (_, .complete) => some (chomp whole) :: entriesOf [] .complete lines
      | (before, .comment) => some (front ++ before) :: entriesOf [] .complete lines
      | (_, state) => entriesOf whole state lines

/-! ## Values -/

/-- Where in a value a reference to a variable stands. -/
inductive Reference where
  /-- In no reference. -/
  | outside
  /-- In a bare name. -/
  | bare
  /-- In a name in braces. -/
  | braced
deriving DecidableEq, Repr

/-- Whether a character may stand in the bare name of a reference. -/
def isNameChar (c : Char) : Bool :=
  Text.inRanges Text.letterRanges c.toNat

/-- A value as far as it is read. -/
structure ValueState where
  strong : Bool := false
  weak : Bool := false
  escaped : Bool := false
  /-- Whether only blanks and a comment may follow. -/
  ended : Bool := false
  reference : Reference := .outside
  name : List Char := []
  output : List Char := []

/-- What stands after a name and an equals sign in the first variable that,
written as one line, begins with them. The name may itself reach past the
equals sign of the variable. -/
def lookupLine? (environment : Variables) (name : List Char) : Option (List Char) :=
  let front := name ++ ['=']
  environment.findSome? fun (key, value) =>
    let line := key.toList ++ '=' :: value.toList
    if front.isPrefixOf line then some (line.drop front.length) else none

/-- What a reference stands for: what the environment has under the name, or
else the value that was read last for it. -/
def resolve (environment stored : Variables) (name : List Char) : List Char :=
  match environment.lookupLine? name with
  | some value => value
  | none => ((stored.lookup (String.ofList name)).getD "").toList

/-- The value, when nothing more of it follows. -/
def finishValue (environment stored : Variables) (s : ValueState) : Option (List Char) :=
  if s.reference = .braced ∨ s.strong ∨ s.weak then none
  else some (s.output ++ resolve environment stored s.name)

/-- Reads the characters of a value. -/
def readValue (environment stored : Variables) (s : ValueState) : List Char → Option (List Char)
  | [] => finishValue environment stored s
  | c :: cs =>
    let emit (s : ValueState) (c : Char) : ValueState := { s with output := s.output ++ [c] }
    let expand (s : ValueState) : ValueState :=
      { s with output := s.output ++ resolve environment stored s.name, name := [],
               reference := .outside }
    if s.ended then
      if c = ' ' ∨ c = '\t' then readValue environment stored s cs
      else if c = '#' then finishValue environment stored s
      else none
    else if s.escaped then
      match c with
      | '\\' | '\'' | '"' | '$' | ' ' =>
        readValue environment stored { emit s c with escaped := false } cs
      | 'n' => readValue environment stored { emit s '\n' with escaped := false } cs
      | _ => none
    else if s.strong then
      if c = '\'' then readValue environment stored { s with strong := false } cs
      else readValue environment stored (emit s c) cs
    else if s.reference ≠ .outside then
      if isNameChar c then readValue environment stored { s with name := s.name ++ [c] } cs
      else if s.reference = .bare then
        if c = '\x7b' ∧ s.name = [] then
          readValue environment stored { s with reference := .braced } cs
        else if c = '$' then readValue environment stored { expand s with reference := .bare } cs
        else readValue environment stored (emit (expand s) c) cs
      else if c = '\x7d' then readValue environment stored (expand s) cs
      else readValue environment stored { s with name := s.name ++ [c] } cs
    else if c = '$' then readValue environment stored { s with reference := .bare } cs
    else if s.weak then
      if c = '"' then readValue environment stored { s with weak := false } cs
      else if c = '\\' then readValue environment stored { s with escaped := true } cs
      else readValue environment stored (emit s c) cs
    else if c = '\'' then readValue environment stored { s with strong := true } cs
    else if c = '"' then readValue environment stored { s with weak := true } cs
    else if c = '\\' then readValue environment stored { s with escaped := true } cs
    else if c = ' ' ∨ c = '\t' then readValue environment stored { s with ended := true } cs
    else readValue environment stored (emit s c) cs

/-! ## Entries -/

/-- Reads the name of a variable, and passes over the blanks after it. -/
def readName (cs : List Char) : Option (List Char × List Char) :=
  let isStart (c : Char) : Bool := c.isAlpha || c == '_'
  let isInner (c : Char) : Bool := c.isAlphanum || c == '_' || c == '.'
  match cs with
  | c :: _ =>
    if isStart c then some (cs.takeWhile isInner, (cs.dropWhile isInner).dropWhile Text.isBlank)
    else none
  | [] => none

/-- The text after an equals sign. -/
def afterEquals : List Char → Option (List Char)
  | '=' :: rest => some rest
  | _ => none

/-- Reads the name of an entry up to its equals sign; the word `export` may
stand before it. -/
def readTarget (cs : List Char) : Option (List Char × List Char) := do
  let (name, rest) ← readName cs
  match afterEquals rest with
  | some rest => return (name, rest)
  | none =>
    if name = "export".toList then
      let (name, rest) ← readName rest
      return (name, ← afterEquals rest)
    else none

/-- What an entry says: nothing, or a variable and its value; an entry that
is not understood has no reading. A variable without a value is not stored
for references. -/
def readEntry (environment stored : Variables) (line : List Char) :
    Option (Option (String × String × Variables)) :=
  let cs := Text.trimList line
  match cs with
  | [] => some none
  | '#' :: _ => some none
  | _ => do
    let (name, rest) ← readTarget cs
    let key := String.ofList name
    match rest.dropWhile Text.isBlank with
    | [] => return some (key, "", (key, "") :: stored)
    | '#' :: _ => return some (key, "", (key, "") :: stored)
    | rest =>
      let value := String.ofList (← readValue environment stored {} rest)
      return some (key, value, (key, value) :: stored)

/-- The environment with a variable that it may have left unset. -/
def add (environment : Variables) (key value : String) : Except VariableError Variables :=
  if (environment.lookup key).isSome then .ok environment
  else if value.toList.contains '\x00' then .error (.nullInValue key)
  else .ok (environment ++ [(key, value)])

/-- Adds what the entries say to the environment. -/
def loadEntries (environment stored : Variables) :
    List (Option (List Char)) → Except VariableError Variables
  | [] => .ok environment
  | none :: _ => .ok environment
  | some line :: lines =>
    match readEntry environment stored line with
    | none => .ok environment
    | some none => loadEntries environment stored lines
    | some (some (key, value, stored)) => do
      loadEntries (← environment.add key value) stored lines

/-- The environment after a file of variables has been read; a byte order
mark may stand at its start. -/
def load (environment : Variables) (file : ByteArray) : Except VariableError Variables :=
  let bytes := match file.toList with
    | 0xef :: 0xbb :: 0xbf :: rest => rest
    | bytes => bytes
  loadEntries environment [] (entriesOf [] .complete ((splitLines bytes).map decodeLine))

end Variables

end GoalGrid
