import GoalGrid.Files.Tree
import GoalGrid.Settings
import GoalGrid.Snapshot.Card
/-!
# The program — cards in files

A card is kept in a file as its pretty JSON text. Commands act on the
files and on a generator, and either may have changed by the
time a command fails.
-/

namespace GoalGrid

/-- Why a command fails. -/
inductive AppError where
  /-- The card refuses. -/
  | refused (cause : CardError)
  /-- The settings are at fault. -/
  | settings (cause : SettingsError)
  /-- The card file cannot be read. -/
  | unreadable (path : String) (cause : FileError)
  /-- The card file does not hold a card. -/
  | noCard (path : String)
  /-- The card file cannot be written. -/
  | unwritable (path : String) (cause : FileError)
  /-- A new card would replace a file. -/
  | wouldReplace (path : String)
  /-- A copy would replace a file. -/
  | copyExists (path : String)
deriving DecidableEq, Repr

/-- The wording of the cause. -/
def AppError.message : AppError → String
  | refused cause => cause.message
  | settings cause => cause.message
  | unreadable path cause => s!"Failed to read card {path}: {cause.message}"
  | noCard path => s!"Failed to parse card {path}"
  | unwritable path cause => s!"Failed to write card {path}: {cause.message}"
  | wouldReplace path => s!"{path} already exists; pass --force to overwrite"
  | copyExists path => s!"{path} already exists"

/-- What commands act on. -/
structure World where
  files : FileTree
  generator : Generator

/-- An action on the world that may fail. -/
abbrev Action (α : Type) : Type :=
  ExceptT AppError (StateM World) α

namespace Action

variable {α : Type}

/-- The outcome of an action, and the world after it. -/
def outcome (a : Action α) (w : World) : Except AppError α × World :=
  (ExceptT.run a).run w

/-- An action that leaves the world alone. -/
def ofExcept (x : Except AppError α) : Action α :=
  ExceptT.mk (pure x)

/-- A check of a card. -/
def check (x : Except CardError α) : Action α :=
  ofExcept (x.mapError .refused)

/-- An edit of a card, with the generator of the world. -/
def ofEdit (e : Edit α) : Action α := do
  let result ← modifyGetThe World fun w =>
    let (result, generator) := e.outcome w.generator
    (result, { w with generator })
  check result

/-- Whether there is anything under a path. -/
def fileExists (path : String) : Action Bool := do
  return (← getThe World).files.exists? path

/-- Loads the card in a file. -/
def load (path : String) : Action Card := do
  match (← getThe World).files.readText path with
  | .error cause => throw (.unreadable path cause)
  | .ok text =>
    match Snapshot.card.decode text with
    | .ok card => return card
    | .error _ => throw (.noCard path)

/-- Saves a card in a file, in place of what the file held. -/
def save (path : String) (card : Card) : Action Unit := do
  let w ← getThe World
  match w.files.writeText path (Snapshot.card.pretty card) with
  | .error cause => throw (.unwritable path cause)
  | .ok files => set { w with files }

/-! ## Outcomes -/

@[simp] theorem outcome_pure (x : α) (w : World) :
    outcome (pure x) w = (.ok x, w) := rfl

@[simp] theorem outcome_throw (cause : AppError) (w : World) :
    outcome (throw cause : Action α) w = (.error cause, w) := rfl

@[simp] theorem outcome_ofExcept (x : Except AppError α) (w : World) :
    outcome (ofExcept x) w = (x, w) := rfl

@[simp] theorem outcome_check (x : Except CardError α) (w : World) :
    outcome (check x) w = (x.mapError .refused, w) := rfl

@[simp] theorem outcome_fileExists (path : String) (w : World) :
    outcome (fileExists path) w = (.ok (w.files.exists? path), w) := rfl

/-- An action after an action: the second one runs if the first did not
fail, on the world that the first one left. -/
theorem outcome_bind {β : Type} (a : Action α) (f : α → Action β) (w : World) :
    outcome (a >>= f) w =
      match outcome a w with
      | (.ok x, w') => outcome (f x) w'
      | (.error cause, w') => (.error cause, w') := by
  show (ExceptT.run (a >>= f)).run w = _
  simp only [ExceptT.run_bind, StateT.run_bind, outcome]
  rcases h : (ExceptT.run a).run w with ⟨x | x, w'⟩
  · rfl
  · rfl

/-- An edit moves the generator on, whether it is refused or not, and leaves
the files alone. -/
theorem outcome_ofEdit (e : Edit α) (w : World) :
    outcome (ofEdit e) w =
      ((e.outcome w.generator).1.mapError .refused,
        { w with generator := (e.outcome w.generator).2 }) := by
  show outcome (check (e.outcome w.generator).1) _ = _
  cases (e.outcome w.generator).1 <;> rfl

end Action

end GoalGrid
