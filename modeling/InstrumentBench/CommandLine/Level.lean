import InstrumentBench.Text.Blank
import InstrumentBench.Text.Split

/-!
# Levels of the command line

The command line is a tree of levels: the program itself, its subcommands, and
the subcommands of `config`.  Each level has named options and arguments known
by their position.  Some options are understood on every level.
-/

namespace InstrumentBench.CommandLine

/-- Which texts a value may be. -/
inductive ValueRule where
  | any
  /-- The name of a file, which is not empty. -/
  | file
  /-- The word `true` or the word `false`. -/
  | truth
  /-- A name that is not blank, an equals sign and any text. -/
  | assignment
  deriving DecidableEq, Repr

/-- A truth value by its word. -/
def truth? (text : String) : Option Bool :=
  if text = "true" then some true else if text = "false" then some false else none

/-- The name before the first equals sign, without the blanks around it, and
the text after the sign. -/
def assignment? (text : String) : Option (String × String) :=
  match Text.cutAtChar '=' text.toList with
  | none => none
  | some (name, value) =>
    if Text.trim name = [] then none
    else some (String.ofList (Text.trim name), String.ofList value)

/-- Whether a text may be a value. -/
def ValueRule.accepts : ValueRule → String → Bool
  | any, _ => true
  | file, text => text ≠ ""
  | truth, text => (truth? text).isSome
  | assignment, text => (assignment? text).isSome

/-- A value with the name it goes by in the help. -/
structure Slot where
  name : String
  rule : ValueRule
  deriving DecidableEq, Repr

/-- How often an option is given on its level. -/
inductive Occurrence where
  | optional
  | required
  | repeated
  deriving DecidableEq, Repr

/-- An option, introduced by two dashes. -/
inductive Setting where
  /-- The workbook to use. -/
  | workbook
  /-- The configuration directory to use. -/
  | configDirectory
  /-- Asks for JSON on the standard output. -/
  | json
  /-- The value of a parameter. -/
  | assign
  /-- The resource of the loopback instrument. -/
  | resource
  /-- What the loopback instrument replies to a query. -/
  | response
  /-- Asks for a file with the replay script. -/
  | save
  deriving DecidableEq, Repr

/-- A level of the command line. -/
inductive Level where
  | program
  | models
  | commands
  | controls
  | render
  | execute
  | send
  | replay
  | schema
  | config
  | showSettings
  | setWorkbook
  | setAudit
  deriving DecidableEq, Repr

namespace Setting

/-- The name of an option, without the dashes. -/
def name : Setting → String
  | workbook => "workbook"
  | configDirectory => "config-dir"
  | json => "json"
  | assign => "set"
  | resource => "resource"
  | response => "response"
  | save => "save"

/-- The value that an option takes, unless it is a flag. -/
def value : Setting → Option Slot
  | workbook => some ⟨"WORKBOOK", .file⟩
  | configDirectory => some ⟨"CONFIG_DIR", .file⟩
  | assign => some ⟨"NAME=VALUE", .assignment⟩
  | resource => some ⟨"RESOURCE", .any⟩
  | response => some ⟨"RESPONSE", .any⟩
  | json | save => none

/-- How often an option is given on its level. -/
def occurrence : Setting → Occurrence
  | assign => .repeated
  | resource => .required
  | _ => .optional

/-- The options understood on every level. -/
def shared : List Setting := [workbook, configDirectory, json]

end Setting

namespace Level

/-- The word that leads to a level from the one above it. -/
def name : Level → String
  | program => "scpi-console"
  | models => "models"
  | commands => "commands"
  | controls => "controls"
  | render => "render"
  | execute => "exec"
  | send => "send"
  | replay => "replay"
  | schema => "schema"
  | config => "config"
  | showSettings => "show"
  | setWorkbook => "set-workbook"
  | setAudit => "audit"

/-- What a level is for. -/
def about : Level → String
  | program => "SCPI bench console headless CLI"
  | models => "List the models described by the workbook"
  | commands => "List the compiled commands for a model"
  | controls => "Show the input controls for one command"
  | render => "Render a command without sending it"
  | execute => "Execute a command against a loopback instrument and print the replay script"
  | send => "Send raw SCPI text to a loopback instrument"
  | replay => "Parse an exported script and list its steps"
  | schema => "Print the JSON Schema of the workbook format"
  | config => "Show or change saved settings"
  | showSettings => "Print current settings"
  | setWorkbook => "Remember the default workbook"
  | setAudit => "Turn the JSONL command log on or off"

/-- The levels below a level. -/
def children : Level → List Level
  | program => [models, commands, controls, render, execute, send, replay, schema, config]
  | config => [showSettings, setWorkbook, setAudit]
  | _ => []

/-- The levels that lead from the program down to a level, the latter left
out. -/
def above : Level → List Level
  | program => []
  | showSettings | setWorkbook | setAudit => [program, config]
  | _ => [program]

/-- Whether one of the levels below must be chosen. -/
def needsChild : Level → Bool
  | program => true
  | _ => false

/-- The arguments known by their position, all of them required. -/
def slots : Level → List Slot
  | commands => [⟨"MODEL", .any⟩]
  | controls | render | execute => [⟨"MODEL", .any⟩, ⟨"COMMAND", .any⟩]
  | send => [⟨"TEXT", .any⟩]
  | replay => [⟨"SCRIPT", .file⟩]
  | setWorkbook => [⟨"PATH", .file⟩]
  | setAudit => [⟨"ENABLED", .truth⟩]
  | _ => []

/-- The options of the level itself. -/
def ownSettings : Level → List Setting
  | render => [.assign]
  | execute => [.resource, .assign, .response, .save]
  | send => [.resource, .response, .save]
  | _ => []

/-- All options of a level, its own before the shared ones. -/
def settings (level : Level) : List Setting :=
  level.ownSettings ++ Setting.shared

/-- The option of a name. -/
def setting? (level : Level) (name : String) : Option Setting :=
  level.settings.find? (·.name = name)

/-- The level below that a word leads to. -/
def child? (level : Level) (word : String) : Option Level :=
  level.children.find? (·.name = word)

end Level

end InstrumentBench.CommandLine
