import InstrumentBench.Catalog.Document
import InstrumentBench.Command.Layout
import InstrumentBench.CommandLine.Program
import InstrumentBench.History.Document
import InstrumentBench.Session.Execution
import InstrumentBench.Workbook.File

/-!
# Tasks

What the program does for each task.  A task shows its result as text, or as
JSON with the members of objects in order.
-/

namespace InstrumentBench.CommandLine

open Json

/-- Shows a result as JSON if that was asked for, else as text. -/
def Context.show (context : Context) (value : Value) (text : String) : Program Unit :=
  .print (if context.json then value.sorted.pretty else text)

/-- Lines without a line end after the last one. -/
def lines (texts : List String) : String :=
  "\n".intercalate texts

/-- The failure for want of a workbook. -/
def noWorkbook : Failure :=
  .validation
    "No workbook: pass --workbook or run \x60scpi-console config set-workbook PATH\x60"

/-- The workbook named on the command line, else the one in the settings. -/
def Context.loadWorkbook (context : Context) : Program Workbook :=
  match context.workbook.or context.settings.workbook with
  | some path => .attempt WorkbookError.failure (Workbook.load path)
  | none => throw noWorkbook

/-- The table of a model; its warnings are told. -/
def findTable (workbook : Workbook) (model : String) : Program Table := do
  match ← Program.check DescriptorError.failure (loadTable workbook.source model) with
  | none => throw (SessionError.noDescriptor model).failure
  | some table =>
    table.warnings.forM fun warning => .note ("warning: " ++ warning.message)
    return table

/-- The command of a name. -/
def findCommand (table : Table) (command : String) : Program Definition :=
  match table.find? command with
  | some definition => pure definition
  | none => throw (.notFound ("Command '" ++ command ++ "'"))

/-- What is told about a model: the size of its table, or why it has none. -/
inductive ModelSummary where
  | usable (model : String) (commands warnings : Nat)
  | unusable (model reason : String)
  deriving DecidableEq, Repr

namespace ModelSummary

/-- The summary of a model of a workbook; none if no sheet describes it. -/
def of? (workbook : Workbook) (model : String) : Option ModelSummary :=
  match loadTable workbook.source model with
  | .ok (some table) => some (usable model table.commands.length table.warnings.length)
  | .ok none => none
  | .error error => some (unusable model error.message)

def encode : ModelSummary → Value
  | usable model commands warnings =>
    .object [("model", .string model), ("commands", .nat commands), ("warnings", .nat warnings)]
  | unusable model reason => .object [("model", .string model), ("error", .string reason)]

/-- A summary as a line. -/
def line : ModelSummary → String
  | usable model commands warnings =>
    model ++ "  (" ++ toString commands ++ " commands, " ++ toString warnings ++ " warnings)"
  | unusable model reason => model ++ "  (unusable: " ++ reason ++ ")"

end ModelSummary

/-- Lists the models of the workbook. -/
def listModels (context : Context) : Program Unit := do
  let workbook ← context.loadWorkbook
  let summaries := (distinctModels workbook.names).filterMap (ModelSummary.of? workbook)
  context.show (.array (summaries.map ModelSummary.encode))
    (lines (summaries.map ModelSummary.line))

/-- The width of the column with the names of commands. -/
def nameWidth : Nat := 28

/-- A command as a line. -/
def commandLine (definition : Definition) : String :=
  definition.direction.label ++ "  " ++ padded nameWidth definition.name ++ " " ++
    definition.template.source

/-- Lists the commands of a model. -/
def listCommands (context : Context) (model : String) : Program Unit := do
  let table ← findTable (← context.loadWorkbook) model
  context.show table.encode (lines (table.commands.map commandLine))

/-- Shows the controls of a command. -/
def showControls (context : Context) (model command : String) : Program Unit := do
  let table ← findTable (← context.loadWorkbook) model
  let layout := Layout.ofDefinition (← findCommand table command) .empty
  context.show layout.encode layout.encode.pretty

/-- Renders a command. -/
def renderCommand (context : Context) (model command : String) (values : Values) :
    Program Unit := do
  let table ← findTable (← context.loadWorkbook) model
  let definition ← findCommand table command
  let rendered ← Program.check RenderError.failure (definition.render values)
  context.show rendered.encode rendered.text

/-- A session whose only instrument answers every query alike. -/
def loopbackSession (context : Context) (workbook : Workbook) (model : String)
    (loopback : Loopback) : Session :=
  let link := Link.ofDefault (some (loopback.response.getD ""))
  let auditDirectory := if context.settings.audit then some context.configDirectory else none
  (Session.start workbook.source link auditDirectory).register
    (.ofIdentity loopback.resource ⟨"", model, ""⟩)

/-- Tells what has been sent, and the script that replays it. -/
def report (context : Context) (loopback : Loopback)
    (answer : Except SessionError Entry × Session) : Program Unit := do
  let entry ← Program.check SessionError.failure answer.1
  Program.note entry.auditLine
  let script := answer.2.recorder.script
  if loopback.save then
    let file := Configuration.scriptFile context.configDirectory
    Program.attempt FileError.failure (replaceFile file script.toUTF8)
    Program.note ("saved " ++ file)
  context.show entry.encode script

/-- Executes a command on a loopback instrument.  The empty model has no
commands and needs no workbook. -/
def executeCommand (context : Context) (model command : String) (values : Values)
    (loopback : Loopback) : Program Unit := do
  let workbook ← if model = "" then pure Workbook.empty else context.loadWorkbook
  let session := loopbackSession context workbook model loopback
  report context loopback (← Program.act (session.execute loopback.resource command values))

/-- Sends text to a loopback instrument. -/
def sendText (context : Context) (text : String) (loopback : Loopback) : Program Unit := do
  let session := loopbackSession context Workbook.empty "" loopback
  report context loopback (← Program.act (session.sendTyped loopback.resource text))

/-- A step of a script as a line. -/
def stepLine (step : Step) : String :=
  step.resource ++ " " ++ step.direction.label ++ ": " ++ step.text

/-- Lists the steps of a script. -/
def listSteps (context : Context) (script : String) : Program Unit := do
  let source ← Program.attempt IoError.failure (readText script)
  let steps ← Program.check ScriptError.failure (Script.read source)
  context.show (.array (steps.map Step.encode)) (lines (steps.map stepLine))

/-- The settings as lines. -/
def settingsLines (context : Context) : List String :=
  [ "settings: " ++ Configuration.settingsFile context.configDirectory,
    "workbook: " ++ context.settings.workbook.getD "(none)",
    "audit:    " ++ if context.settings.audit then "on" else "off" ]

/-- The settings after a change; a workbook is remembered by its absolute
path. -/
def SettingsChange.apply (change : SettingsChange) (directory : String) (settings : Settings) :
    Settings :=
  match change with
  | workbook path => { settings with workbook := some (Path.absolute directory path) }
  | audit enabled => { settings with audit := enabled }

/-- Changes the settings. -/
def applyChange (context : Context) (change : SettingsChange) : Program Unit := do
  let settings := change.apply context.directory context.settings
  Program.attempt FileError.failure (settings.save context.configDirectory)
  context.show settings.encode "Settings saved."

/-- Does a task. -/
def Task.perform (context : Context) : Task → Program Unit
  | .models => listModels context
  | .commands model => listCommands context model
  | .controls model command => showControls context model command
  | .render model command values => renderCommand context model command values
  | .execute model command values loopback =>
    executeCommand context model command values loopback
  | .send text loopback => sendText context text loopback
  | .replay script => listSteps context script
  | .schema => .print Workbook.schema.pretty
  | .showSettings => context.show context.settings.encode (lines (settingsLines context))
  | .changeSettings change => applyChange context change

/-- What a task of an invocation works with. -/
def Invocation.context (invocation : Invocation) (environment : Environment) :
    Action Context := do
  let configDirectory := invocation.configDirectory.getD environment.configDirectory
  let settings ← Settings.load? configDirectory
  return {
    configDirectory := configDirectory
    settings := settings.getD .initial
    workbook := invocation.workbook
    json := invocation.json
    directory := environment.directory }

/-- A run of the program. -/
def run (environment : Environment) (arguments : List String) : Action Outcome := do
  match Invocation.read arguments with
  | .error stop => return .ofStop stop
  | .ok invocation =>
    let context ← invocation.context environment
    match ← ((invocation.task.perform context).run.run ⟨"", ""⟩) with
    | (.ok (), output) => return .success output
    | (.error failure, output) => return .failure invocation.json output failure

end InstrumentBench.CommandLine
