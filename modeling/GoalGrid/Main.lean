import GoalGrid.App.Program
/-!
# The program on a machine

The run of the program with real files: what the run may look at is read
first, the run itself is `Program.run`, and the files that it changed are
written afterwards.
-/

namespace GoalGrid

/-- The path of a place on the machine. -/
def Location.path (location : Location) : String :=
  "/" ++ "/".intercalate location

/-- Adds what is at a place of the machine, if there is something. -/
def FileTree.fetch (t : FileTree) (location : Location) : IO FileTree := do
  let place := (← IO.currentDir) / location.path
  if ← place.isDir then return t.put location .directory
  else if ← place.pathExists then return t.put location (.file (← IO.FS.readBinFile place))
  else return t

/-- The files of the machine that a command line may look at. -/
def FileTree.ofMachine (words : List String) : IO FileTree := do
  let here := (FileTree.names (← IO.currentDir).toString).filter (· ≠ "")
  let start : FileTree := { here }
  let mut tree := start
  for location in FileTree.stops [] here do
    tree ← tree.fetch location
  for path in Program.paths words do
    for location in FileTree.stops (start.start path) (FileTree.names path) do
      tree ← tree.fetch location
  return tree

/-- Writes the files that are not as they were. -/
def FileTree.store (before after : FileTree) : IO Unit :=
  for (location, entry) in after.entries do
    if let .file bytes := entry then
      unless before.entries.contains (location, entry) do
        IO.FS.writeBinFile location.path bytes

/-- The words that bytes make, four to a word. -/
def wordsOfBytes : List UInt8 → List UInt32
  | a :: b :: c :: d :: rest =>
    (a.toUInt32 ||| b.toUInt32 <<< 8 ||| c.toUInt32 <<< 16 ||| d.toUInt32 <<< 24) ::
      wordsOfBytes rest
  | _ => []

/-- A generator that nobody can foretell. -/
def Generator.ofMachine : IO Generator := do
  let bytes ← IO.getRandomBytes 4096
  return .ofWords (wordsOfBytes bytes.toList)

end GoalGrid

open GoalGrid in
/-- Runs the program. -/
def main (words : List String) : IO UInt32 := do
  let files ← FileTree.ofMachine words
  let given := ((← IO.getEnv seedVariable).map fun seed => [(seedVariable, seed)]).getD []
  let result := Program.run files given (← Generator.ofMachine) words
  files.store result.files
  IO.print result.output
  if let some complaint := result.complaint then IO.eprintln complaint
  return UInt32.ofNat result.code
