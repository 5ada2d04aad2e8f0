import GoalGrid.Toml.Node
import GoalGrid.Toml.Number
/-!
# TOML — values and documents

Reading values, lines, and whole documents. A document is read line by
line: a line is empty, opens a table, or gives a value under a name.
-/

namespace GoalGrid.Toml

/-! ## Values -/

/-- Whether a character may stand in a value without quotes. -/
def isRunChar (c : Char) : Bool :=
  c.isAlphanum || c == '+' || c == '-' || c == '.' || c == '_' || c == ':'

/-- The run of a value without quotes. A time of day that follows a date
after a blank belongs to it. -/
def takeRun (cs : List Char) : List Char × List Char :=
  let front := cs.takeWhile isRunChar
  let rest := cs.dropWhile isRunChar
  match date? front, rest with
  | some [], ' ' :: c :: more =>
    if c.isDigit then
      (front ++ ' ' :: (c :: more).takeWhile isRunChar, (c :: more).dropWhile isRunChar)
    else (front, rest)
  | _, _ => (front, rest)

/-- The value that a run stands for. -/
def runValue? (cs : List Char) : Option Scalar :=
  if cs = "true".toList then some (.boolean true)
  else if cs = "false".toList then some (.boolean false)
  else
    match integer? cs with
    | some n => some (.integer n)
    | none =>
      if isFloat cs then some .float
      else if isMoment cs then some .moment
      else none

mutual

/-- Reads a value; `depth` counts the brackets and braces around it, and
`fuel` bounds the steps. -/
def readValue : Nat → Nat → Reader Node
  | 0, _, _ => none
  | fuel + 1, depth, cs =>
    match cs with
    | '"' :: _ => do
      let (s, rest) ← readString cs
      return (.scalar (.text s), rest)
    | '\'' :: _ => do
      let (s, rest) ← readString cs
      return (.scalar (.text s), rest)
    | '[' :: rest => do
      if maxDepth ≤ depth then none
      let (elements, rest) ← readElements fuel (depth + 1) rest
      return (.array elements, rest)
    | '\x7b' :: rest => do
      if maxDepth ≤ depth then none
      let (entries, rest) ← readMembers fuel (depth + 1) [] rest
      return (.table .inline entries, rest)
    | cs => do
      let (run, rest) := takeRun cs
      return (.scalar (← runValue? run), rest)

/-- Reads the elements of an array up to its closing bracket; a comma may
follow the last one. -/
def readElements : Nat → Nat → Reader (List Node)
  | 0, _, _ => none
  | fuel + 1, depth, cs =>
    match skipGap cs with
    | ']' :: rest => some ([], rest)
    | rest => do
      let (node, rest) ← readValue fuel depth rest
      match skipGap rest with
      | ',' :: rest =>
        let (nodes, rest) ← readElements fuel depth rest
        return (node :: nodes, rest)
      | ']' :: rest => return ([node], rest)
      | _ => none

/-- Reads the members of a table in braces onto `entries`, up to its closing
brace; a comma may follow the last one. The parts of a member may stand on
lines of their own. -/
def readMembers : Nat → Nat → Entries → Reader Entries
  | 0, _, _, _ => none
  | fuel + 1, depth, entries, cs =>
    match skipGap cs with
    | '\x7d' :: rest => some (entries, rest)
    | rest => do
      let ((path, key), rest) ← readKey rest
      let rest ← after? '=' (skipGap rest)
      let (node, rest) ← readValue fuel depth (skipGap rest)
      let entries ← entries.add path key node .inline
      match skipGap rest with
      | ',' :: rest => readMembers fuel depth entries rest
      | '\x7d' :: rest => return (entries, rest)
      | _ => none

end

/-! ## Documents -/

/-- A document as far as it is read: the entries, and the path of the header
that the next lines belong to. -/
structure State where
  entries : Entries := []
  header : List String := []

/-- Reads one line, and gives the text of the next one. -/
def readLine (state : State) (cs : List Char) : Option (State × List Char) :=
  match skipSpace cs with
  | '[' :: '[' :: rest => do
    let ((path, key), rest) ← readKey rest
    let rest ← after? ']' (← after? ']' rest)
    let entries ← state.entries.openElement path key
    return ({ entries, header := path ++ [key] }, ← endLine rest)
  | '[' :: rest => do
    let ((path, key), rest) ← readKey rest
    let rest ← after? ']' rest
    let entries ← state.entries.openTable path key
    return ({ entries, header := path ++ [key] }, ← endLine rest)
  | rest =>
    match endLine rest with
    | some rest => some (state, rest)
    | none => do
      let ((path, key), rest) ← readKey rest
      let rest ← after? '=' rest
      let (node, rest) ← readValue (2 * rest.length + 2) 0 (skipSpace rest)
      let entries ← state.entries.addUnder state.header path key node
      return ({ state with entries }, ← endLine rest)

/-- Reads lines up to the end of the document; `fuel` bounds their number. -/
def readLines : Nat → State → List Char → Option Entries
  | 0, _, _ => none
  | _ + 1, state, [] => some state.entries
  | fuel + 1, state, cs => do
    let (state, rest) ← readLine state cs
    readLines fuel state rest

/-- The entries of a document; a byte order mark may stand before it. -/
def parse (text : String) : Option Entries :=
  let cs := match text.toList with
    | '\uFEFF' :: rest => rest
    | cs => cs
  readLines (cs.length + 1) {} cs

end GoalGrid.Toml
