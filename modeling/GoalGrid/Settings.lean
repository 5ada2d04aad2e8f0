import GoalGrid.Grid.Size
import GoalGrid.Random.Seeded
import GoalGrid.Text.Blank
import GoalGrid.Text.Decimal
import GoalGrid.Text.Quoted
import GoalGrid.Toml.Document
import GoalGrid.Files.Tree
/-!
# Settings

The defaults for new cards and the width of a cell on the screen. They are
read from a TOML document, in which other names are passed over, and the
seed can be set from outside.
-/

namespace GoalGrid

/-- Why settings are not accepted. -/
inductive SettingsError where
  /-- The file is there, and cannot be read. -/
  | file (cause : FileError)
  /-- The document is no TOML, or a field has the wrong type. -/
  | unreadable
  /-- The default size is no size of a grid. -/
  | size (cause : CardError)
  /-- The seed from outside is no number in range. -/
  | seed (raw : String) (cause : Text.DecimalError)
deriving DecidableEq, Repr

/-- The name of the environment variable with the seed. -/
def seedVariable : String := "GOAL_BINGO_SEED"

/-- The wording of the cause. -/
def SettingsError.message : SettingsError → String
  | file cause => "Failed to read settings file: " ++ cause.message
  | unreadable => "Failed to parse settings"
  | size cause => "Invalid default_grid_size: " ++ cause.message
  | seed raw cause => s!"Invalid {seedVariable} value {Text.quoted raw}: {cause.message}"

/-- Defaults for new cards, and how cards are shown. -/
structure Settings where
  /-- The side length of a new card. -/
  defaultSide : Nat := 5
  /-- Whether a new card has a FREE cell. -/
  defaultFree : Bool := true
  /-- The seed of the generator; without one it is unpredictable. -/
  seed : Option Nat := none
  /-- The width of a cell on the screen. -/
  cellWidth : Nat := 12
deriving DecidableEq, Repr

namespace Settings

/-- The size of a new card. -/
def gridSize (s : Settings) : Except SettingsError GridSize :=
  (GridSize.ofSide s.defaultSide).mapError .size

/-- The number below `limit` that a node holds. -/
def number (limit : Nat) : Toml.Node → Except SettingsError Nat
  | .scalar (.integer n) =>
    if 0 ≤ n ∧ n < limit then .ok n.toNat else .error .unreadable
  | _ => .error .unreadable

/-- The truth value that a node holds. -/
def truth : Toml.Node → Except SettingsError Bool
  | .scalar (.boolean b) => .ok b
  | _ => .error .unreadable

/-- The value under a name, or the default when the name is not there. -/
def read {α : Type} (entries : Toml.Entries) (key : String) (default : α)
    (value : Toml.Node → Except SettingsError α) : Except SettingsError α :=
  match entries.lookup key with
  | some node => value node
  | none => .ok default

/-- The settings in the entries of a document. -/
def ofEntries (entries : Toml.Entries) : Except SettingsError Settings := do
  let defaults : Settings := {}
  let defaultSide ← read entries "default_grid_size" defaults.defaultSide (number 256)
  let defaultFree ← read entries "default_free_space" defaults.defaultFree truth
  let seed ← read entries "seed" defaults.seed fun node => some <$> number Text.wordLimit node
  let cellWidth ← read entries "cell_width" defaults.cellWidth (number Text.wordLimit)
  return { defaultSide, defaultFree, seed, cellWidth }

/-- The settings in a TOML document; the default size has to be one. -/
def ofToml (text : String) : Except SettingsError Settings :=
  match Toml.parse text with
  | none => .error .unreadable
  | some entries => do
    let settings ← ofEntries entries
    let _ ← settings.gridSize
    return settings

/-- The settings in the file under a path; without a file, the defaults. -/
def load (t : FileTree) (path : String) : Except SettingsError Settings :=
  if t.exists? path then
    (t.readText path).mapError .file >>= ofToml
  else .ok {}

/-- The settings with the seed that a text gives; white space around the
number does not count. -/
def withSeed (s : Settings) (raw : String) : Except SettingsError Settings :=
  match Text.readUnsigned Text.wordLimit (Text.trimList raw.toList) with
  | .ok seed => .ok { s with seed := some seed }
  | .error cause => .error (.seed raw cause)

/-- The settings with the seed of the environment, if it sets one. -/
def withSeed? (s : Settings) : Option String → Except SettingsError Settings
  | some raw => s.withSeed raw
  | none => .ok s

/-- The generator of the seed; without one the given generator, which stands
for the unpredictable. -/
def generator (s : Settings) (unpredictable : Generator) : Generator :=
  match s.seed with
  | some seed => .seeded seed
  | none => unpredictable

end Settings

end GoalGrid
