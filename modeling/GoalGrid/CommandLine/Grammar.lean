import GoalGrid.CommandLine.Command
/-!
# Command line — grammar

Which arguments a command takes: options, which are named, and positional
arguments, which stand in order. The options of the program may stand
before the command or among its arguments.
-/

namespace GoalGrid.CommandLine

/-- An argument that a command line can give. -/
inductive Argument where
  | config
  | card
  | size
  | header
  | noFree
  | force
  | content
  | position
  | undo
  | text
  | first
  | second
  | out
deriving DecidableEq, Repr

/-- What the value of an argument has to be. -/
inductive ValueKind where
  /-- Any text. -/
  | text
  /-- A path: any text but the empty one. -/
  | path
  /-- A number that fits a byte. -/
  | byte
  /-- A number that fits a word. -/
  | word
deriving DecidableEq, Repr

/-- What an option does. -/
inductive OptionRole where
  /-- It is set or not. -/
  | flag (argument : Argument)
  /-- It takes a value. -/
  | valued (argument : Argument) (kind : ValueKind)
  /-- It asks for help. -/
  | help
  /-- It asks for the version. -/
  | version
deriving DecidableEq, Repr

/-- An option with its names. -/
structure OptionRule where
  long : String
  short : Option Char := none
  role : OptionRole
deriving Repr

/-- A positional argument. -/
structure Place where
  argument : Argument
  kind : ValueKind
deriving DecidableEq, Repr

/-- The arguments of a command, or of the program before its command. -/
structure Level where
  /-- The options. -/
  options : List OptionRule
  /-- The positional arguments, in order; all of them are required. -/
  places : List Place := []
  /-- The options that are required. -/
  requiredOptions : List Argument := []
  /-- Whether the name of a command may follow. -/
  hasCommands : Bool := false
deriving Repr

/-- Asks for help. -/
def helpOption : OptionRule :=
  { long := "help", short := some 'h', role := .help }

/-- The options of the program that its commands take too. -/
def sharedOptions : List OptionRule :=
  [{ long := "config", role := .valued .config .path },
   { long := "card", role := .valued .card .path }]

/-- The program before its command. -/
def topLevel : Level where
  options := sharedOptions ++
    [helpOption, { long := "version", short := some 'V', role := .version }]
  hasCommands := true

/-- A command with these options and positional arguments. -/
def commandLevel (options : List OptionRule) (places : List Place)
    (requiredOptions : List Argument) : Level where
  options := options ++ sharedOptions ++ [helpOption]
  places
  requiredOptions

/-- The name of a command. -/
inductive CommandName where
  | create
  | print
  | add
  | remove
  | complete
  | header
  | resize
  | enableFree
  | disableFree
  | moveFree
  | shuffle
  | swap
  | bingos
  | finalize
  | copy
deriving DecidableEq, Repr

namespace CommandName

/-- Every command. -/
def all : List CommandName :=
  [create, print, add, remove, complete, header, resize, enableFree, disableFree, moveFree,
   shuffle, swap, bingos, finalize, copy]

/-- The name as it is typed. -/
def text : CommandName → String
  | create => "new"
  | print => "show"
  | add => "add"
  | remove => "remove"
  | complete => "complete"
  | header => "header"
  | resize => "resize"
  | enableFree => "enable-free"
  | disableFree => "disable-free"
  | moveFree => "move-free"
  | shuffle => "shuffle"
  | swap => "swap"
  | bingos => "bingos"
  | finalize => "finalize"
  | copy => "clone"

/-- The command that a word names. -/
def ofText? (s : String) : Option CommandName :=
  all.find? (·.text = s)

/-- The option with the size of a grid. -/
def sizeOption : OptionRule :=
  { long := "size", short := some 's', role := .valued .size .byte }

/-- The option that leaves FREE out. -/
def noFreeOption : OptionRule :=
  { long := "no-free", role := .flag .noFree }

/-- The arguments of the command. -/
def level : CommandName → Level
  | create => commandLevel [sizeOption,
      { long := "header", role := .valued .header .text }, noFreeOption,
      { long := "force", role := .flag .force }] [] []
  | add => commandLevel
      [{ long := "position", short := some 'p', role := .valued .position .word }]
      [⟨.content, .text⟩] []
  | remove | moveFree => commandLevel [] [⟨.position, .word⟩] []
  | complete => commandLevel [{ long := "undo", role := .flag .undo }] [⟨.position, .word⟩] []
  | header => commandLevel [] [⟨.text, .text⟩] []
  | resize => commandLevel [] [⟨.size, .byte⟩] []
  | swap => commandLevel [] [⟨.first, .word⟩, ⟨.second, .word⟩] []
  | copy => commandLevel [{ long := "out", role := .valued .out .path }, sizeOption, noFreeOption]
      [] [.out]
  | print | enableFree | disableFree | shuffle | bingos | finalize => commandLevel [] [] []

end CommandName

/-- The word that asks for help about commands. -/
def helpWord : String := "help"

end GoalGrid.CommandLine
