import GoalGrid.Json.Number
/-!
# JSON — values that are passed over

A member that no field asks for is passed over. It has to be well formed,
and that is all: its numbers may be of any size.
-/

namespace GoalGrid.Json

mutual

/-- Passes over a value; `fuel` bounds the number of steps. -/
def skipWithin : Nat → List Char → Except Error (List Char)
  | 0, _ => .error .malformed
  | fuel + 1, cs =>
    match skipSpace cs with
    | 'n' :: rest => word "ull".toList rest
    | 't' :: rest => word "rue".toList rest
    | 'f' :: rest => word "alse".toList rest
    | '"' :: rest => skipChars rest
    | '[' :: rest =>
      match skipSpace rest with
      | ']' :: rest => .ok rest
      | rest => skipElements fuel rest
    | '\x7b' :: rest =>
      match skipSpace rest with
      | '\x7d' :: rest => .ok rest
      | rest => skipMembers fuel rest
    | rest => Prod.snd <$> readNumeral rest

/-- Passes over the elements of an array, of which there is one at least, up
to its closing bracket. -/
def skipElements : Nat → List Char → Except Error (List Char)
  | 0, _ => .error .malformed
  | fuel + 1, cs => do
    let rest ← skipWithin fuel cs
    match skipSpace rest with
    | ',' :: rest => skipElements fuel rest
    | ']' :: rest => return rest
    | _ => throw .malformed

/-- Passes over the members of an object, of which there is one at least, up
to its closing brace. -/
def skipMembers : Nat → List Char → Except Error (List Char)
  | 0, _ => .error .malformed
  | fuel + 1, cs =>
    match skipSpace cs with
    | '"' :: rest => do
      let rest ← skipChars rest
      match skipSpace rest with
      | ':' :: rest =>
        let rest ← skipWithin fuel rest
        match skipSpace rest with
        | ',' :: rest => skipMembers fuel rest
        | '\x7d' :: rest => return rest
        | _ => throw .malformed
      | _ => throw .malformed
    | _ => throw .malformed

end

/-- Passes over a value: every step takes a character, so that the length
of the text is fuel enough. -/
def skipValue (cs : List Char) : Except Error (List Char) :=
  skipWithin (2 * cs.length + 2) cs

end GoalGrid.Json
