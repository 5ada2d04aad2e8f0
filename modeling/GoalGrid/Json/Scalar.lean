import GoalGrid.Json.Number
/-!
# JSON — values without parts

Reading a string, a truth value, a word or the absence of a value where
one is wanted. A value of another kind is invalid data, once its own text
is known to be well formed; of an array or an object the first bracket is
enough.
-/

namespace GoalGrid.Json

variable {α : Type}

/-- Refuses what stands at the front of the text as a value of the wrong
kind. -/
def wrongKind (cs : List Char) : Except Error α :=
  let invalid : Except Error α := .error (.data .invalidType)
  match cs with
  | 'n' :: rest => do let _ ← word "ull".toList rest; invalid
  | 't' :: rest => do let _ ← word "rue".toList rest; invalid
  | 'f' :: rest => do let _ ← word "alse".toList rest; invalid
  | '"' :: rest => do let _ ← readString rest; invalid
  | '[' :: _ => invalid
  | '\x7b' :: _ => invalid
  | c :: rest =>
    if c = '-' ∨ c.isDigit then do let _ ← readNumber (c :: rest); invalid
    else .error .malformed
  | [] => .error .malformed

/-- Reads a string. -/
def readText : Reader String := fun cs =>
  match skipSpace cs with
  | '"' :: rest => readString rest
  | rest => wrongKind rest

/-- Reads a truth value. -/
def readBool : Reader Bool := fun cs =>
  match skipSpace cs with
  | 't' :: rest => do return (true, ← word "rue".toList rest)
  | 'f' :: rest => do return (false, ← word "alse".toList rest)
  | rest => wrongKind rest

/-- Reads the value that stands for nothing. -/
def readNull : Reader Unit := fun cs =>
  match skipSpace cs with
  | 'n' :: rest => do return ((), ← word "ull".toList rest)
  | rest => wrongKind rest

/-- Reads a natural number below `limit`. -/
def readBelow (limit : Nat) : Reader Nat := fun cs =>
  match skipSpace cs with
  | c :: rest =>
    if c = '-' ∨ c.isDigit then do
      match ← readNumber (c :: rest) with
      | (.natural n, rest) =>
        if n < limit then return (n, rest) else throw (.data .invalidValue)
      | (.negative _, _) => throw (.data .invalidValue)
      | (.other, _) => throw (.data .invalidType)
    else wrongKind (c :: rest)
  | [] => wrongKind []

/-- Reads a value, or null for its absence. -/
def readOptional (read : Reader α) : Reader (Option α) := fun cs =>
  match skipSpace cs with
  | 'n' :: rest => do return (none, ← word "ull".toList rest)
  | rest => do
    let (x, rest) ← read rest
    return (some x, rest)

end GoalGrid.Json
