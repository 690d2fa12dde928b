import InstrumentBench.Bindings
import InstrumentBench.CommandLine.Arguments

/-!
# Invocations

What the program is asked to do, read from its arguments.
-/

namespace InstrumentBench.CommandLine

/-- A change of the settings. -/
inductive SettingsChange where
  | workbook (path : String)
  | audit (enabled : Bool)
  deriving DecidableEq, Repr

/-- How a loopback instrument is set up. -/
structure Loopback where
  resource : String
  response : Option String
  /-- Whether the replay script is written to a file, too. -/
  save : Bool
  deriving DecidableEq, Repr

/-- What the program is asked to do. -/
inductive Task where
  | models
  | commands (model : String)
  | controls (model command : String)
  | render (model command : String) (values : Bindings String)
  | execute (model command : String) (values : Bindings String) (loopback : Loopback)
  | send (text : String) (loopback : Loopback)
  | replay (script : String)
  | schema
  | showSettings
  | changeSettings (change : SettingsChange)
  deriving DecidableEq, Repr

/-- A task with the options that all tasks share. -/
structure Invocation where
  workbook : Option String
  configDirectory : Option String
  json : Bool
  task : Task
  deriving DecidableEq, Repr

namespace Given

/-- The value of an option. -/
def value? (given : Given) (setting : Setting) : Option String :=
  given.options.lookup setting

/-- The values assigned to parameters; the last one of each counts. -/
def assignments (given : Given) : Bindings String :=
  Bindings.ofList (given.options.filterMap fun option =>
    if option.1 = .assign then assignment? option.2 else .none)

/-- The loopback instrument described by the options. -/
def loopback (given : Given) : Loopback :=
  { resource := (given.value? .resource).getD ""
    response := given.value? .response
    save := given.has .save }

end Given

/-- The task of a level; none if the arguments are too few or too many. -/
def task? (level : Level) (given : Given) : Option Task :=
  match level, given.positionals with
  | .models, [] => some .models
  | .commands, [model] => some (.commands model)
  | .controls, [model, command] => some (.controls model command)
  | .render, [model, command] => some (.render model command given.assignments)
  | .execute, [model, command] =>
    some (.execute model command given.assignments given.loopback)
  | .send, [text] => some (.send text given.loopback)
  | .replay, [script] => some (.replay script)
  | .schema, [] => some .schema
  | .config, [] | .showSettings, [] => some .showSettings
  | .setWorkbook, [path] => some (.changeSettings (.workbook path))
  | .setAudit, [enabled] => (truth? enabled).map fun enabled => .changeSettings (.audit enabled)
  | _, _ => none

/-- The value of a shared option: the one given on the deepest level counts. -/
def sharedValue? (chosen : List (Level × Given)) (setting : Setting) : Option String :=
  chosen.reverse.findSome? (·.2.value? setting)

/-- What the program is asked to do by its arguments. -/
def Invocation.read (arguments : List String) : Except Stop Invocation := do
  let chosen ← readFrom .program .none false arguments
  let task ← orMisuse .program do
    let (level, given) ← chosen.getLast?
    task? level given
  return {
    workbook := sharedValue? chosen .workbook
    configDirectory := sharedValue? chosen .configDirectory
    json := (sharedValue? chosen .json).isSome
    task := task }

end InstrumentBench.CommandLine
