import GoalGrid.Json.Compound
import GoalGrid.Json.Value
/-!
# Snapshots — formats

A format says how the values of one type stand in a JSON text: it writes
a value, and it reads one back, refusing texts that no value has.
-/

namespace GoalGrid.Snapshot

open GoalGrid.Json (Reader)

/-- How a type is written as JSON and read from it. -/
structure Format (α : Type) where
  /-- Reads a value off the front of a text. -/
  read : Reader α
  /-- The JSON value that stands for a value. -/
  write : α → Json

namespace Format

variable {α : Type}

/-- The value that a text stands for. -/
def decode (format : Format α) (text : String) : Except Json.Error α :=
  Json.readAll format.read text

/-- The compact text of a value. -/
def compact (format : Format α) (x : α) : String :=
  (format.write x).compact

/-- The pretty text of a value. -/
def pretty (format : Format α) (x : α) : String :=
  (format.write x).pretty

/-- The format of a list. -/
def list (format : Format α) : Format (List α) where
  read := Json.readList format.read
  write xs := .array (xs.map format.write)

/-- The format of a value that may be absent. -/
def optional (format : Format α) : Format (Option α) where
  read := Json.readOptional format.read
  write
    | some x => format.write x
    | none => .null

/-- The field of a record that holds a value in this format. -/
def field {ρ : Type} (format : Format α) (name : String) (get : ρ → Option α)
    (put : ρ → α → ρ) : Json.Field ρ where
  name
  isGiven parts := (get parts).isSome
  fill parts cs := do
    let (x, rest) ← format.read cs
    return (put parts x, rest)

end Format

/-- The format of texts. -/
def text : Format String where
  read := Json.readText
  write := .string

/-- The format of truth values. -/
def flag : Format Bool where
  read := Json.readBool
  write := .bool

/-- The format of numbers that fit a word. -/
def count : Format Nat where
  read := Json.readBelow Text.wordLimit
  write := .number

/-- What a check of cards says, as a result of reading. -/
def checked {α : Type} (x : Except CardError α) : Except Json.Error α :=
  x.mapError fun cause => .data (.refused cause)

end GoalGrid.Snapshot
