import InstrumentBench.Command.Document
import InstrumentBench.Script.Replay
import InstrumentBench.Session.Basic

/-!
# Failures

Every error of the library in the form in which programs are told about it: a
code, and what it carries.
-/

namespace InstrumentBench

open Json

/-- A failure as told to the outside. -/
inductive Failure where
  | notFound (what : String)
  /-- A sheet or a row cannot be compiled; `kind` is the code of the error. -/
  | descriptor (kind message : String)
  /-- A value has been turned down before anything was sent. -/
  | render (kind message : String)
  | link (message : String)
  | script (message : String)
  | workbook (message : String)
  | io (message : String)
  | validation (message : String)
  deriving DecidableEq, Repr

namespace Failure

def message : Failure → String
  | notFound what => what ++ " not found"
  | descriptor _ message => "Descriptor error: " ++ message
  | render _ message => message
  | link message => "Transport error: " ++ message
  | script message => "Script error: " ++ message
  | workbook message => "Workbook error: " ++ message
  | io message => "I/O error: " ++ message
  | validation message => message

/-- The stable code of a failure, which programs match on. -/
def code : Failure → String
  | notFound .. => "NotFound"
  | descriptor .. => "DescriptorError"
  | render .. => "RenderError"
  | link .. => "TransportError"
  | script .. => "ScriptError"
  | workbook .. => "WorkbookError"
  | io .. => "IoError"
  | validation .. => "ValidationError"

def detail : Failure → Value
  | notFound what => .object [("what", .string what)]
  | descriptor kind message | render kind message =>
    .object [("kind", .string kind), ("message", .string message)]
  | link message | script message | workbook message | io message | validation message =>
    .object [("message", .string message)]

def encode (failure : Failure) : Value :=
  .object [("code", .string failure.code), ("detail", failure.detail)]

end Failure

/-- A descriptor error as a failure. -/
def DescriptorError.failure (error : DescriptorError) : Failure :=
  .descriptor error.code error.message

/-- A render error as a failure. -/
def RenderError.failure (error : RenderError) : Failure :=
  .render error.code error.message

/-- A link error as a failure. -/
def LinkError.failure (error : LinkError) : Failure :=
  .link error.message

/-- A script error as a failure. -/
def ScriptError.failure (error : ScriptError) : Failure :=
  .script error.message

/-- An input or output error as a failure. -/
def IoError.failure (error : IoError) : Failure :=
  .io error.message

/-- A file error as a failure: contents of the wrong form are told apart from
files that cannot be read. -/
def FileError.failure : FileError → Failure
  | io error => error.failure
  | json => .validation FileError.jsonReason

/-- A workbook error as a failure. -/
def WorkbookError.failure : WorkbookError → Failure
  | sheetNotFound name => .notFound ("Sheet '" ++ name ++ "'")
  | error => .workbook error.message

/-- A session error as a failure. -/
def SessionError.failure : SessionError → Failure
  | unknownInstrument name => .notFound ("Instrument '" ++ name ++ "'")
  | noDescriptor model => .notFound ("Descriptor table for '" ++ model ++ "'")
  | unknownCommand model command =>
    .notFound ("Command '" ++ command ++ "' for '" ++ model ++ "'")
  | descriptor error => error.failure
  | render error => error.failure
  | link error => error.failure

end InstrumentBench
