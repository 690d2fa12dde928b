import InstrumentBench.Storage.Document

/-!
# Configuration

The configuration directory holds the settings, the command logs and the
exported history.  Settings that are missing or cannot be read count as the
default ones.
-/

namespace InstrumentBench

namespace Configuration

/-- The name of the configuration directory among those of other programs. -/
def directoryName : String := "com.scpi-console.app"

/-- The file with the settings. -/
def settingsFile (directory : String) : String :=
  Path.join directory "settings.json"

/-- The directory with the command logs. -/
def logDirectory (directory : String) : String :=
  Path.join directory "command-logs"

/-- The file that the history is exported to. -/
def scriptFile (directory : String) : String :=
  Path.join directory "history.py"

end Configuration

open Json

/-- What is remembered from one run to the next. -/
structure Settings where
  version : Nat
  /-- The workbook used when none is named. -/
  workbook : Option String
  /-- Whether commands are logged. -/
  audit : Bool
  deriving DecidableEq, Repr

namespace Settings

/-- The settings of a new installation. -/
def initial : Settings := ⟨1, none, true⟩

/-- The settings of a new installation with a workbook. -/
def ofWorkbook (path : String) : Settings :=
  { initial with workbook := some path }

def encode (settings : Settings) : Value :=
  .object [("version", .nat settings.version),
    ("workbook_path", .option .string settings.workbook),
    ("audit_enabled", .bool settings.audit)]

/-- Reads settings; only the version must be given. -/
def decode : Decoder Settings := fun room tree => do
  let (room, fields) ←
    Decoder.fields? ["version", "workbook_path", "audit_enabled"] room tree
  match fields with
  | [version, workbook, audit] =>
    return {
      version := ← Decoder.required (Decoder.word 32) room version
      workbook := ←
        Decoder.defaulted initial.workbook (Decoder.nullable Decoder.string) room workbook
      audit := ← Decoder.defaulted initial.audit Decoder.bool room audit }
  | _ => none

/-- The settings kept in a configuration directory, unless they are missing or
cannot be read. -/
def load? (directory : String) : Action (Option Settings) := do
  let file := Configuration.settingsFile directory
  if ← Action.reply (.exists file) then
    match ← (readDocument decode file).run with
    | .ok settings => return some settings
    | .error _ => return none
  else
    return none

/-- Keeps settings in a configuration directory. -/
def save (directory : String) (settings : Settings) : Attempt FileError Unit := do
  .io (.reply (.makeDirectories directory))
  writeDocument (Configuration.settingsFile directory) settings.encode

end Settings

end InstrumentBench
