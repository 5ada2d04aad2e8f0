import GoalGrid.App.Execute
import GoalGrid.CommandLine.Parse
import GoalGrid.Files.Variables
/-!
# The program — a run

One run of the program: the words of the command line, the environment and
the files go in, and an exit code, what is printed, and the
files come out.
-/

namespace GoalGrid

/-- What a run comes to. -/
structure RunResult where
  /-- The exit code: 0 when all went well, 1 after an error, 2 after a
  command line that is not accepted, 101 when the environment does not take
  a variable. -/
  code : Nat
  /-- What is printed. -/
  output : String
  /-- What is wrong, if anything is. -/
  complaint : Option String := none
  /-- The files after the run. -/
  files : FileTree

namespace Program

/-- The name and version of the program. -/
def versionText : String := "goal_bingo 0.1.0\n"

/-- A short text about the commands. -/
def helpText : String :=
  "Build and track a bingo card of personal goals\n\nUsage: goal_bingo [OPTIONS] <COMMAND>\n\n" ++
    "Commands:\n" ++
    String.join (CommandLine.CommandName.all.map fun name => "  " ++ name.text ++ "\n")

/-- The file whose variables are added to the environment. -/
def variablesFile : String := ".env"

/-- The environment after the file of variables, if there is one. -/
def environment (files : FileTree) (given : Variables) : Except VariableError Variables :=
  match files.readBytes variablesFile with
  | .ok bytes => Variables.load given bytes
  | .error _ => .ok given

/-- The settings of a run in an environment. -/
def settings (files : FileTree) (environment : Variables) (path : String) :
    Except SettingsError Settings := do
  let settings ← Settings.load files path
  settings.withSeed? (environment.lookup seedVariable)

/-- The paths that a run with this command line may look at. -/
def paths (words : List String) : List String :=
  match CommandLine.parse words with
  | .error _ => []
  | .ok line =>
    let out := match line.command with
      | .copy out _ _ => [out]
      | _ => []
    [variablesFile, line.config, line.card] ++ out

/-- Runs the program in an environment on the words of a command line. -/
def runIn (environment : Variables) (files : FileTree) (unpredictable : Generator)
    (words : List String) : RunResult :=
  match CommandLine.parse words with
  | .error .displayHelp => { code := 0, output := helpText, files }
  | .error .displayVersion => { code := 0, output := versionText, files }
  | .error _ => { code := 2, output := "", complaint := some helpText, files }
  | .ok line =>
    match settings files environment line.config with
    | .error cause => { code := 1, output := "", complaint := some cause.message, files }
    | .ok settings =>
      let world : World := { files, generator := settings.generator unpredictable }
      match (settings.execute line.card line.command).outcome world with
      | (.ok output, world) => { code := 0, output, files := world.files }
      | (.error cause, world) =>
        { code := 1, output := "", complaint := some cause.message, files := world.files }

/-- Runs the program on the words of a command line; the file of variables
is read first. -/
def run (files : FileTree) (given : Variables) (unpredictable : Generator)
    (words : List String) : RunResult :=
  match environment files given with
  | .error cause => { code := 101, output := "", complaint := some cause.message, files }
  | .ok environment => runIn environment files unpredictable words

end Program

end GoalGrid
