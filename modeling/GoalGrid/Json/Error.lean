import GoalGrid.CardError
/-!
# JSON — why a text is not read

A text is read once from left to right for a value of a known shape, and
the first thing wrong ends the reading: either the text is malformed, or
it is a JSON text so far and the data is wrong for the shape.
-/

namespace GoalGrid.Json

/-- What is wrong with data in a well-formed place. -/
inductive DataError where
  /-- A value of another kind is wanted here. -/
  | invalidType
  /-- The number does not fit. -/
  | invalidValue
  /-- The array ends before the record is complete. -/
  | invalidLength (length : Nat)
  /-- The object ends without this field. -/
  | missingField (name : String)
  /-- The field is given twice. -/
  | duplicateField (name : String)
  /-- There is no variant of this name. -/
  | unknownVariant (name : String)
  /-- The value breaks a rule of cards. -/
  | refused (cause : CardError)
deriving DecidableEq, Repr

/-- Why a text is not read. -/
inductive Error where
  | malformed
  | data (cause : DataError)
deriving DecidableEq, Repr

/-- The wording of the cause. -/
def DataError.message : DataError → String
  | invalidType => "invalid type"
  | invalidValue => "invalid value"
  | invalidLength length => s!"invalid length {length}"
  | missingField name => "missing field `" ++ name ++ "`"
  | duplicateField name => "duplicate field `" ++ name ++ "`"
  | unknownVariant name => "unknown variant `" ++ name ++ "`"
  | refused cause => cause.message

end GoalGrid.Json
