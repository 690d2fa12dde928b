import InstrumentBench.CommandLine.Help
import InstrumentBench.CommandLine.Invocation
import InstrumentBench.Configuration
import InstrumentBench.Failure
import InstrumentBench.Storage.Replacement

/-!
# Programs

A program of the command line acts on the outside world, writes lines to the
standard output and the error output, and may end in a failure.  What has been
written before a failure stays written.
-/

namespace InstrumentBench.CommandLine

/-- What a program has written. -/
structure Output where
  standard : String
  error : String
  deriving DecidableEq, Repr

/-- A program of the command line. -/
abbrev Program (α : Type) : Type := ExceptT Failure (StateT Output Action) α

namespace Program

variable {α ε : Type}

/-- Writes a line to the standard output. -/
def print (line : String) : Program Unit :=
  modify fun output => { output with standard := output.standard ++ line ++ "\n" }

/-- Writes a line to the error output. -/
def note (line : String) : Program Unit :=
  modify fun output => { output with error := output.error ++ line ++ "\n" }

/-- Performs an action. -/
def act (action : Action α) : Program α :=
  ExceptT.lift (StateT.lift action)

/-- Goes on with a result, or ends in the failure that an error stands for. -/
def check (failure : ε → Failure) : Except ε α → Program α
  | .ok value => pure value
  | .error error => throw (failure error)

/-- Performs an action that may fail. -/
def attempt (failure : ε → Failure) (action : Attempt ε α) : Program α := do
  check failure (← act action.run)

end Program

/-- What the program knows of its surroundings. -/
structure Environment where
  /-- The values of environment variables. -/
  lookup : String → Option String
  /-- The directory that the program was started in. -/
  directory : String

namespace Environment

/-- The home directory of the operator. -/
def home (environment : Environment) : String :=
  ((environment.lookup "HOME").or (environment.lookup "USERPROFILE")).getD "."

/-- The configuration directory unless another one is named. -/
def configDirectory (environment : Environment) : String :=
  let base := (environment.lookup "XDG_CONFIG_HOME").getD
    (Path.join environment.home ".config")
  Path.join base Configuration.directoryName

end Environment

/-- What the tasks of a run have in common. -/
structure Context where
  configDirectory : String
  settings : Settings
  /-- The workbook named on the command line. -/
  workbook : Option String
  json : Bool
  /-- The directory that relative paths start from. -/
  directory : String
  deriving DecidableEq, Repr

/-- How a run of the program ends. -/
structure Outcome where
  exitCode : UInt32
  output : Output
  deriving DecidableEq, Repr

namespace Outcome

/-- The program has done its task. -/
def success (output : Output) : Outcome := ⟨0, output⟩

/-- The program has failed; the failure is told as JSON if that was asked
for. -/
def failure (json : Bool) (output : Output) (failure : Failure) : Outcome :=
  if json then
    ⟨1, { output with standard := output.standard ++ failure.encode.pretty ++ "\n" }⟩
  else ⟨1, { output with error := output.error ++ "Error: " ++ failure.message ++ "\n" }⟩

/-- Reading the arguments has ended without a task. -/
def ofStop : Stop → Outcome
  | .help level => ⟨0, ⟨level.help, ""⟩⟩
  | .helpOfHelp level => ⟨0, ⟨level.helpOfHelp, ""⟩⟩
  | .version => ⟨0, ⟨versionLine, ""⟩⟩
  | .misuse level => ⟨2, ⟨"", level.misuse⟩⟩

end Outcome

end InstrumentBench.CommandLine
