import GoalGrid.CardError
import GoalGrid.Random.Permute
/-!
# Cards — edits

An edit may be refused, and may ask for chance on the way. It is a
computation over a generator: it gives a result or a cause, and the
generator as it stands afterwards in either case.
-/

namespace GoalGrid

/-- A computation that draws from a generator and may be refused. -/
abbrev Edit (α : Type) : Type :=
  ExceptT CardError (StateM Generator) α

namespace Edit

variable {α : Type}

/-- The outcome of an edit, and the generator after it. -/
def outcome (e : Edit α) (g : Generator) : Except CardError α × Generator :=
  (ExceptT.run e).run g

/-- An edit that draws nothing. -/
def ofExcept (x : Except CardError α) : Edit α :=
  ExceptT.mk (pure x)

/-- An edit that is a draw. -/
def ofDraw (f : Generator → α × Generator) : Edit α :=
  ExceptT.lift (modifyGet f)

/-- Chooses an entry of the list, and refuses for the given cause when the
list is empty. -/
def chooseOr (cause : CardError) (xs : List α) : Edit α := do
  match ← ofDraw (Generator.choose xs) with
  | some x => pure x
  | none => throw cause

@[simp] theorem outcome_pure (x : α) (g : Generator) :
    outcome (pure x) g = (.ok x, g) := rfl

@[simp] theorem outcome_throw (cause : CardError) (g : Generator) :
    outcome (throw cause : Edit α) g = (.error cause, g) := rfl

@[simp] theorem outcome_ofExcept (x : Except CardError α) (g : Generator) :
    outcome (ofExcept x) g = (x, g) := rfl

@[simp] theorem outcome_ofDraw (f : Generator → α × Generator) (g : Generator) :
    outcome (ofDraw f) g = (.ok (f g).1, (f g).2) := rfl

/-- An edit after an edit: the second one runs if the first was not
refused, on the generator that the first one left. -/
theorem outcome_bind {β : Type} (e : Edit α) (f : α → Edit β) (g : Generator) :
    outcome (e >>= f) g =
      match outcome e g with
      | (.ok x, g') => outcome (f x) g'
      | (.error cause, g') => (.error cause, g') := by
  show (ExceptT.run (e >>= f)).run g = _
  simp only [ExceptT.run_bind, StateT.run_bind, outcome]
  rcases h : (ExceptT.run e).run g with ⟨x | x, g'⟩
  · rfl
  · rfl

end Edit

end GoalGrid
