/-!
# Files — a tree of files

The files of a machine as a value, with the directory that the program
works in, and what reading and writing under a path comes to. A path is a
list of names; every name but the last has to lead through a directory.
There are no links, and a write either happens as a whole or fails.
-/

namespace GoalGrid

/-- Why a file is not read or written. -/
inductive FileError where
  | notFound
  | notADirectory
  | isADirectory
  | nameTooLong
  /-- A null character in a path. -/
  | nullInPath
  /-- The bytes of a file are no text. -/
  | notText
deriving DecidableEq, Repr

/-- The wording of the cause. -/
def FileError.message : FileError → String
  | notFound => "No such file or directory (os error 2)"
  | notADirectory => "Not a directory (os error 20)"
  | isADirectory => "Is a directory (os error 21)"
  | nameTooLong => "File name too long (os error 36)"
  | nullInPath => "file name contained an unexpected NUL byte"
  | notText => "stream did not contain valid UTF-8"

/-- The names that lead from the root to a place. -/
abbrev Location : Type :=
  List String

/-- What is at a place. -/
inductive Entry where
  | file (bytes : ByteArray)
  | directory
deriving BEq

/-- The places that hold something, and the working directory. -/
structure FileTree where
  entries : List (Location × Entry) := []
  here : Location := []

namespace FileTree

/-! ## Places -/

/-- What is at a place; the root is always there. -/
def find? (t : FileTree) : Location → Option Entry
  | [] => some .directory
  | location => t.entries.lookup location

/-- The tree with this at a place. -/
def put (t : FileTree) (location : Location) (entry : Entry) : FileTree :=
  { t with entries := (location, entry) :: t.entries.filter (·.1 ≠ location) }

/-- The tree without a place and what lies below it. -/
def erase (t : FileTree) (location : Location) : FileTree :=
  { t with entries := t.entries.filter fun entry => !location.isPrefixOf entry.1 }

/-! ## Paths -/

/-- The names between the slashes of a path. -/
def splitPath : List Char → List (List Char)
  | [] => [[]]
  | c :: cs =>
    if c = '/' then [] :: splitPath cs
    else
      match splitPath cs with
      | name :: names => (c :: name) :: names
      | [] => [[c]]

/-- The names of a path. -/
def names (path : String) : List String :=
  (splitPath path.toList).map String.ofList

/-- The longest name, in bytes. -/
def maxName : Nat := 255

/-- One past the longest path, in bytes. -/
def pathLimit : Nat := 4096

/-- Refuses a place that is no directory. -/
def enter (t : FileTree) (location : Location) : Except FileError Unit :=
  match t.find? location with
  | some .directory => .ok ()
  | some (.file _) => .error .notADirectory
  | none => .error .notFound

/-- The place that names lead to from another place. An empty name and a
single dot stay, two dots go back, and the root is its own parent. -/
def walk (t : FileTree) : Location → List String → Except FileError Location
  | location, [] => .ok location
  | location, name :: names => do
    t.enter location
    if name = "" ∨ name = "." then t.walk location names
    else if name = ".." then t.walk location.dropLast names
    else if maxName < name.utf8ByteSize then throw .nameTooLong
    else t.walk (location ++ [name]) names

/-- Refuses a path that no file has. -/
def checkPath (path : String) : Except FileError Unit :=
  if path.toList.contains '\x00' then .error .nullInPath
  else if pathLimit ≤ path.utf8ByteSize then .error .nameTooLong
  else if path = "" then .error .notFound
  else .ok ()

/-- Where a path starts: at the root if it begins with a slash, else in the
working directory. -/
def start (t : FileTree) (path : String) : Location :=
  if path.toList.head? = some '/' then [] else t.here

/-- The place that a path leads to; there need not be anything. -/
def locate (t : FileTree) (path : String) : Except FileError Location := do
  checkPath path
  t.walk (t.start path) (names path)

/-! ## Reading and writing -/

/-- Whether a path leads to something. -/
def exists? (t : FileTree) (path : String) : Bool :=
  match t.locate path with
  | .ok location => (t.find? location).isSome
  | .error _ => false

/-- The bytes of the file under a path. -/
def readBytes (t : FileTree) (path : String) : Except FileError ByteArray := do
  match t.find? (← t.locate path) with
  | some (.file bytes) => return bytes
  | some .directory => throw .isADirectory
  | none => throw .notFound

/-- The text of the file under a path. -/
def readText (t : FileTree) (path : String) : Except FileError String := do
  match String.fromUTF8? (← t.readBytes path) with
  | some text => return text
  | none => throw .notText

/-- The names of a path without the empty ones at its end, which slashes
leave there. -/
def stem (names : List String) : List String :=
  (names.reverse.dropWhile (· = "")).reverse

/-- The place for a file under a path. A path that ends in a slash is one of
a directory, whatever its last name. -/
def locateFile (t : FileTree) (path : String) : Except FileError Location := do
  checkPath path
  let names := names path
  if names.getLast? = some "" then
    t.enter (← t.walk (t.start path) (stem names).dropLast)
    throw .isADirectory
  else t.walk (t.start path) names

/-- The tree after a file has been written under a path. -/
def writeBytes (t : FileTree) (path : String) (bytes : ByteArray) : Except FileError FileTree := do
  let location ← t.locateFile path
  match t.find? location with
  | some .directory => throw .isADirectory
  | _ => return t.put location (.file bytes)

/-- The tree after a text has been written under a path. -/
def writeText (t : FileTree) (path text : String) : Except FileError FileTree :=
  t.writeBytes path text.toUTF8

/-- The places that a path comes by, whatever is there. -/
def stops (location : Location) : List String → List Location
  | [] => []
  | name :: names =>
    let next :=
      if name = "" ∨ name = "." then location
      else if name = ".." then location.dropLast
      else location ++ [name]
    next :: stops next names

/-- The tree with a directory under a path, and at all places on the way. -/
def makeDirectory (t : FileTree) (path : String) : FileTree :=
  (stops (t.start path) (names path)).foldl (fun t location => t.put location .directory) t

/-- The tree without what is under a path. -/
def remove (t : FileTree) (path : String) : FileTree :=
  match t.locate path with
  | .ok location => t.erase location
  | .error _ => t

/-- The files right in the working directory, with their names and bytes. -/
def filesHere (t : FileTree) : List (String × ByteArray) :=
  t.entries.filterMap fun entry =>
    match entry.2, entry.1.getLast? with
    | .file bytes, some name => if entry.1 = t.here ++ [name] then some (name, bytes) else none
    | _, _ => none

end FileTree

end GoalGrid
