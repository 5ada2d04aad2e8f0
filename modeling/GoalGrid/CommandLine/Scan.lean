import GoalGrid.CommandLine.Grammar
import GoalGrid.Text.Decimal
/-!
# Command line — scanning arguments

Going through the words of a command line at one level of the grammar. A
word that may be a value is kept waiting, and it is looked at when the
next argument begins or the words end, so that an unknown option after a
bad number is reported before the number.
-/

namespace GoalGrid.CommandLine

/-- Why a command line is not accepted; asking for help or for the version
ends the reading in the same way. -/
inductive UsageError where
  | unknownArgument
  | invalidSubcommand
  | missingRequiredArgument
  | missingSubcommand
  /-- An option without a value, or an empty path. -/
  | invalidValue
  /-- A value that is no number in range. -/
  | valueValidation
  /-- A value for an option that takes none. -/
  | tooManyValues
  /-- An argument that is given twice. -/
  | argumentConflict
  | displayHelp
  | displayVersion
  /-- Help, because nothing was given. -/
  | displayHelpOnMissing
deriving DecidableEq, Repr

/-- The value of an argument. -/
inductive Value where
  | set
  | text (s : String)
  | number (n : Nat)
deriving DecidableEq, Repr

/-- The value that a word is for an argument of this kind. -/
def ValueKind.value (kind : ValueKind) (word : String) : Except UsageError Value :=
  match kind with
  | .text => .ok (.text word)
  | .path => if word.isEmpty then .error .invalidValue else .ok (.text word)
  | .byte =>
    match Text.readSigned 256 word.toList with
    | .ok n => .ok (.number n)
    | .error _ => .error .valueValidation
  | .word =>
    match Text.readUnsigned Text.wordLimit word.toList with
    | .ok n => .ok (.number n)
    | .error _ => .error .valueValidation

/-- The arguments that have been read, with their values. -/
abbrev Given : Type :=
  List (Argument × Value)

/-- An argument whose value has not been looked at: an option may still be
waiting for its word. -/
structure Pending where
  argument : Argument
  kind : ValueKind
  word : Option String
deriving DecidableEq, Repr

/-- How far the words of a level have been read. -/
structure Progress where
  /-- The arguments that have been read. -/
  given : Given := []
  /-- The argument that is looked at next. -/
  pending : Option Pending := none
  /-- The number of positional arguments so far. -/
  placed : Nat := 0
  /-- Whether options have come to an end. -/
  trailing : Bool := false
deriving DecidableEq, Repr

namespace Progress

/-- Records the value of an argument, which must be new. -/
def record (p : Progress) (argument : Argument) (value : Except UsageError Value) :
    Except UsageError Progress := do
  if (p.given.lookup argument).isSome then throw .argumentConflict
  return { p with given := p.given ++ [(argument, ← value)] }

/-- Looks at the argument that is pending. -/
def settle (p : Progress) : Except UsageError Progress :=
  match p.pending with
  | none => .ok p
  | some ⟨_, _, none⟩ => .error .invalidValue
  | some ⟨argument, kind, some word⟩ =>
    { p with pending := none }.record argument (kind.value word)

/-- Whether an option is waiting for its word. -/
def isWaiting (p : Progress) : Bool :=
  match p.pending with
  | some ⟨_, _, none⟩ => true
  | _ => false

/-- Takes an option, with the value that is attached to it if there is
one. -/
def takeOption (p : Progress) (role : OptionRole) (attached : Option String) :
    Except UsageError Progress :=
  match role, attached with
  | .valued argument kind, some word => do
    (← p.settle).record argument (kind.value word)
  | .valued argument kind, none => do
    return { ← p.settle with pending := some ⟨argument, kind, none⟩ }
  | _, some _ => .error .tooManyValues
  | .flag argument, none => do (← p.settle).record argument (.ok .set)
  | .help, none => do let _ ← p.settle; throw .displayHelp
  | .version, none => do let _ ← p.settle; throw .displayVersion

/-- Takes a word after two dashes: the name of an option, and its value
after an equals sign. -/
def takeLong (p : Progress) (level : Level) (body : List Char) : Except UsageError Progress :=
  let name := body.takeWhile (· ≠ '=')
  let attached := match body.dropWhile (· ≠ '=') with
    | _ :: value => some (String.ofList value)
    | [] => none
  match level.options.find? (·.long = String.ofList name) with
  | some rule => p.takeOption rule.role attached
  | none => .error .unknownArgument

/-- Takes a word after one dash: the letter of an option, and its value
right after it or after an equals sign. Help and the version take no value
and are asked for at once. -/
def takeShort (p : Progress) (level : Level) (letter : Char) (rest : List Char) :
    Except UsageError Progress :=
  match level.options.find? (·.short = some letter) with
  | none => .error .unknownArgument
  | some rule =>
    match rule.role, rest with
    | .valued _ _, '=' :: value => p.takeOption rule.role (some (String.ofList value))
    | .valued _ _, [] => p.takeOption rule.role none
    | .valued _ _, value => p.takeOption rule.role (some (String.ofList value))
    | role, _ => p.takeOption role none

/-- Takes a word as a positional argument. -/
def takePlace (p : Progress) (level : Level) (word : String) : Except UsageError Progress :=
  match level.places[p.placed]? with
  | some place => do
    let p ← p.settle
    return { p with
      pending := some ⟨place.argument, place.kind, some word⟩, placed := p.placed + 1 }
  | none =>
    if level.hasCommands then
      if p.trailing ∧ ((CommandName.ofText? word).isSome ∨ word = helpWord) then
        .error .unknownArgument
      else .error .invalidSubcommand
    else .error .unknownArgument

/-- Takes a word that is no name of a command. -/
def take (p : Progress) (level : Level) (word : String) : Except UsageError Progress :=
  if p.trailing then p.takePlace level word
  else
    match word.toList with
    | ['-', '-'] => .ok { p with trailing := true }
    | '-' :: '-' :: body => p.takeLong level body
    | '-' :: letter :: rest => p.takeShort level letter rest
    | _ =>
      match p.pending with
      | some ⟨argument, kind, none⟩ =>
        .ok { p with pending := some ⟨argument, kind, some word⟩ }
      | _ => p.takePlace level word

end Progress

/-- What ends the words of a level: the last of them, or the name of a
command with the words after it. -/
inductive Ending where
  | done
  | command (name : CommandName) (words : List String)
  | help (words : List String)
deriving DecidableEq, Repr

/-- Whether a word is the name of a command here: it is none after two
dashes alone, nor where an option waits for its value. -/
def Progress.command? (p : Progress) (level : Level) (word : String) (words : List String) :
    Option Ending :=
  if !level.hasCommands || p.trailing || p.isWaiting then none
  else if word = helpWord then some (.help words)
  else (CommandName.ofText? word).map (.command · words)

/-- Goes through the words of a level. -/
def scan (level : Level) (p : Progress) : List String → Except UsageError (Progress × Ending)
  | [] => .ok (p, .done)
  | word :: words =>
    match p.command? level word words with
    | some ending => .ok (p, ending)
    | none => do scan level (← p.take level word) words

end GoalGrid.CommandLine
