import GoalGrid.Json.Scalar
import GoalGrid.Json.Skip
/-!
# JSON — lists, records and variants

Reading values with parts. A record may be written as an object, with its
fields in any order and strangers among them, or as an array of its
fields in their own order. A variant is written as its name, or as an
object with its name over its value.
-/

namespace GoalGrid.Json

variable {α ρ : Type}

/-! ## Lists -/

/-- What follows an element of an array: another element, whose text is
given, or the end. -/
def nextElement (isFirst : Bool) (cs : List Char) : Except Error (Option (List Char)) :=
  match skipSpace cs with
  | ']' :: _ => .ok none
  | ',' :: rest =>
    if isFirst then .ok (some (',' :: rest))
    else
      match skipSpace rest with
      | [] => .error .malformed
      | ']' :: _ => .error .malformed
      | rest => .ok (some rest)
  | [] => .error .malformed
  | rest => if isFirst then .ok (some rest) else .error .malformed

/-- The text after the closing bracket of an array that holds no more
elements. -/
def closeArray (cs : List Char) : Except Error (List Char) :=
  match skipSpace cs with
  | ']' :: rest => .ok rest
  | _ => .error .malformed

/-- Reads the elements of an array up to its closing bracket; `fuel` bounds
their number. -/
def readElements (read : Reader α) : Nat → Bool → Reader (List α)
  | 0, _, _ => .error .malformed
  | fuel + 1, isFirst, cs => do
    match ← nextElement isFirst cs with
    | none => return ([], ← closeArray cs)
    | some cs =>
      let (x, rest) ← read cs
      let (xs, rest) ← readElements read fuel false rest
      return (x :: xs, rest)

/-- Reads a list: every element takes a character, so that the length of the
text is fuel enough. -/
def readList (read : Reader α) : Reader (List α) := fun cs =>
  match skipSpace cs with
  | '[' :: rest => readElements read (rest.length + 1) true rest
  | rest => wrongKind rest

/-! ## Records -/

/-- A field of a record whose parts are gathered in `ρ`. -/
structure Field (ρ : Type) where
  /-- The name of the field. -/
  name : String
  /-- Whether the field has been read. -/
  isGiven : ρ → Bool
  /-- Reads the value of the field. -/
  fill : ρ → Reader ρ
  /-- Whether an array may end before the field. -/
  isOptional : Bool := false

/-- The shape of a record: its fields in order, and what the gathered parts
make. -/
structure Shape (ρ α : Type) where
  /-- The fields, in the order of an array. -/
  fields : List (Field ρ)
  /-- The parts before any field is read. -/
  start : ρ
  /-- The record with these parts; a field may be missing, or the parts may
  not fit together. -/
  finish : ρ → Except Error α

/-- The part that a field must give. -/
def required (name : String) : Option α → Except Error α
  | some x => .ok x
  | none => .error (.data (.missingField name))

/-- What follows a member of an object: the text of another one after the
quote that opens its name, or the end. -/
def nextMember (isFirst : Bool) (cs : List Char) : Except Error (Option (List Char)) :=
  match skipSpace cs with
  | '\x7d' :: _ => .ok none
  | ',' :: rest =>
    if isFirst then .error .malformed
    else
      match skipSpace rest with
      | '"' :: rest => .ok (some rest)
      | _ => .error .malformed
  | '"' :: rest => if isFirst then .ok (some rest) else .error .malformed
  | _ => .error .malformed

/-- The text after the closing brace of an object that holds no more
members. -/
def closeObject (cs : List Char) : Except Error (List Char) :=
  match skipSpace cs with
  | '\x7d' :: rest => .ok rest
  | _ => .error .malformed

/-- The text after the colon between a name and its value. -/
def afterColon (cs : List Char) : Except Error (List Char) :=
  match skipSpace cs with
  | ':' :: rest => .ok rest
  | _ => .error .malformed

/-- Reads the members of an object up to its closing brace; `fuel` bounds
their number. -/
def readMembers (fields : List (Field ρ)) : Nat → Bool → ρ → Reader ρ
  | 0, _, _, _ => .error .malformed
  | fuel + 1, isFirst, parts, cs => do
    match ← nextMember isFirst cs with
    | none => return (parts, cs)
    | some cs =>
      let (name, rest) ← readString cs
      match fields.find? (·.name = name) with
      | some field =>
        if field.isGiven parts then throw (.data (.duplicateField name))
        let rest ← afterColon rest
        let (parts, rest) ← field.fill parts rest
        readMembers fields fuel false parts rest
      | none =>
        let rest ← afterColon rest
        let rest ← skipValue rest
        readMembers fields fuel false parts rest

/-- Reads the fields of a record from the elements of an array; `read` of
them have been read before. -/
def readPlaces : Nat → List (Field ρ) → ρ → Reader ρ
  | _, [], parts, cs => .ok (parts, cs)
  | read, field :: fields, parts, cs => do
    match ← nextElement (read == 0) cs with
    | some cs =>
      let (parts, rest) ← field.fill parts cs
      readPlaces (read + 1) fields parts rest
    | none =>
      if field.isOptional then readPlaces (read + 1) fields parts cs
      else throw (.data (.invalidLength read))

/-- Reads a record. -/
def readRecord (shape : Shape ρ α) : Reader α := fun cs =>
  match skipSpace cs with
  | '[' :: rest => do
    let (parts, rest) ← readPlaces 0 shape.fields shape.start rest
    let rest ← closeArray rest
    return (← shape.finish parts, rest)
  | '\x7b' :: rest => do
    let (parts, rest) ← readMembers shape.fields (rest.length + 1) true shape.start rest
    let x ← shape.finish parts
    return (x, ← closeObject rest)
  | rest => wrongKind rest

/-! ## Variants -/

/-- A variant of a type: its name, the value it stands for on its own, or
the reader of the value under its name. -/
inductive Variant (α : Type) where
  /-- A variant without a value of its own. -/
  | unit (name : String) (value : α)
  /-- A variant with a value. -/
  | over (name : String) (read : Reader α)

/-- The name of a variant. -/
def Variant.name : Variant α → String
  | .unit name _ => name
  | .over name _ => name

/-- The variant with this name. -/
def findVariant (variants : List (Variant α)) (name : String) : Except Error (Variant α) :=
  match variants.find? (·.name = name) with
  | some variant => .ok variant
  | none => .error (.data (.unknownVariant name))

/-- Reads the name in front of a value. A name is part of the object and not a
value, so that anything but a string in its place is malformed, and not of
the wrong kind. -/
def readName : Reader String := fun cs =>
  match skipSpace cs with
  | '"' :: rest => readString rest
  | _ => .error .malformed

/-- Reads a variant. -/
def readVariant (variants : List (Variant α)) : Reader α := fun cs =>
  match skipSpace cs with
  | '"' :: rest => do
    let (name, rest) ← readString rest
    match ← findVariant variants name with
    | .unit _ x => return (x, rest)
    | .over _ _ => throw (.data .invalidType)
  | '\x7b' :: rest => do
    let (name, rest) ← readName rest
    let variant ← findVariant variants name
    let rest ← afterColon rest
    let (x, rest) ← match variant with
      | .unit _ x => (fun (_, rest) => (x, rest)) <$> readNull rest
      | .over _ read => read rest
    return (x, ← closeObject rest)
  | _ => .error .malformed

/-! ## Whole texts -/

/-- Reads a whole text: nothing but white space may follow the value. -/
def readAll (read : Reader α) (text : String) : Except Error α := do
  let (x, rest) ← read text.toList
  match skipSpace rest with
  | [] => return x
  | _ => throw .malformed

end GoalGrid.Json
