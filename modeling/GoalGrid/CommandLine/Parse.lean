import GoalGrid.CommandLine.Scan
/-!
# Command line — from words to a command

Reading a whole command line: the options of the program, the name of a
command, and the arguments of the command. The command is read to its end
before the last option of the program is looked at. An option of the
program counts where it stands last, before the command or after it.
-/

namespace GoalGrid.CommandLine

/-- The file with the settings, unless another one is named. -/
def defaultConfig : String := "goal_bingo.toml"

/-- The file with the card, unless another one is named. -/
def defaultCard : String := "card.json"

/-! ## Values of arguments -/

/-- The text given for an argument. -/
def Given.text? (given : Given) (argument : Argument) : Option String :=
  match given.lookup argument with
  | some (.text s) => some s
  | _ => none

/-- The number given for an argument. -/
def Given.number? (given : Given) (argument : Argument) : Option Nat :=
  match given.lookup argument with
  | some (.number n) => some n
  | _ => none

/-- The position given for an argument. -/
def Given.position? (given : Given) (argument : Argument) : Option Position :=
  (given.number? argument).map Position.mk

/-- Whether a flag is set. -/
def Given.isSet (given : Given) (argument : Argument) : Bool :=
  (given.lookup argument).isSome

/-- The command of this name with the arguments given; nothing if one is
missing. -/
def CommandName.build (name : CommandName) (given : Given) : Option Command :=
  match name with
  | create =>
    some (.create (given.number? .size) (given.text? .header) (given.isSet .noFree)
      (given.isSet .force))
  | print => some .print
  | add => do return .add (← given.text? .content) (given.position? .position)
  | remove => do return .remove (← given.position? .position)
  | complete => do return .complete (← given.position? .position) (given.isSet .undo)
  | header => do return .header (← given.text? .text)
  | resize => do return .resize (← given.number? .size)
  | enableFree => some .enableFree
  | disableFree => some .disableFree
  | moveFree => do return .moveFree (← given.position? .position)
  | shuffle => some .shuffle
  | swap => do return .swap (← given.position? .first) (← given.position? .second)
  | bingos => some .bingos
  | finalize => some .finalize
  | copy => do
    return .copy (← given.text? .out) (given.number? .size) (given.isSet .noFree)

/-! ## Whole command lines -/

/-- Reads the arguments of a command. -/
def parseCommand (name : CommandName) (words : List String) :
    Except UsageError (Command × Given) := do
  let (p, _) ← scan name.level {} words
  let p ← p.settle
  match name.build p.given with
  | some command => return (command, p.given)
  | none => throw .missingRequiredArgument

/-- What a request for help about commands comes to: the words have to name
a command, or the request itself. -/
def helpAbout : List String → UsageError
  | [] => .displayHelp
  | [word] =>
    if (CommandName.ofText? word).isSome ∨ word = helpWord then .displayHelp
    else .invalidSubcommand
  | _ => .invalidSubcommand

/-- Reads a command line, given as the words after the name of the
program. -/
def parse (words : List String) : Except UsageError CommandLine := do
  let (p, ending) ← scan topLevel {} words
  match ending with
  | .help words => throw (helpAbout words)
  | .done =>
    let p ← p.settle
    throw (if p.given.isEmpty then .displayHelpOnMissing else .missingSubcommand)
  | .command name words =>
    let (command, given) ← parseCommand name words
    let p ← p.settle
    let path (argument : Argument) (default : String) : String :=
      ((given.text? argument).or (p.given.text? argument)).getD default
    return { config := path .config defaultConfig, card := path .card defaultCard, command }

end GoalGrid.CommandLine
