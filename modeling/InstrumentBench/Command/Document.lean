import InstrumentBench.Command.Layout
import InstrumentBench.Command.Rendering
import InstrumentBench.Json.Decoder

/-!
# Commands in documents

How directions, parameters, definitions, requests, rendered commands, layouts
and their errors are written in JSON documents, and how those among them that
documents may also bring in are read.
-/

namespace InstrumentBench

open Json

namespace Direction

def encode (direction : Direction) : Value :=
  .string direction.label

def decode : Decoder Direction :=
  Decoder.oneOf [(get.label, get), (set.label, set)]

end Direction

def ParameterKind.encode : ParameterKind → Value
  | free => .object [("type", .string "free")]
  | fixed places => .object [("type", .string "formatted_free"), ("decimals", .nat places)]
  | choice options => .object [("type", .string "enumerated"), ("options", .strings options)]

def Parameter.encode (parameter : Parameter) : Value :=
  .object [("name", .string parameter.name), ("kind", parameter.kind.encode)]

/-- A definition with its template as text. -/
def Definition.encode (definition : Definition) : Value :=
  .object [("name", .string definition.name), ("direction", definition.direction.encode),
    ("template", .string definition.template.source),
    ("parameters", .array (definition.parameters.map Parameter.encode))]

def DescriptorError.detail : DescriptorError → Value
  | malformedParameter segment fault =>
    .object [("segment", .string segment), ("reason", .string fault.message)]
  | duplicateParameter name => .object [("name", .string name)]
  | missingColumn column => .object [("column", .string column)]
  | invalidDirection token => .object [("token", .string token)]
  | malformedTemplate offset fault =>
    .object [("offset", .nat offset), ("reason", .string fault.message)]
  | bindingMismatch placeholders parameters =>
    .object [("placeholders", .strings placeholders), ("parameters", .strings parameters)]
  | ambiguousSheet model chosen ignored =>
    .object [("model", .string model), ("chosen", .string chosen), ("ignored", .strings ignored)]
  | source reason => .object [("message", .string reason)]

def DescriptorError.encode (error : DescriptorError) : Value :=
  .object [("code", .string error.code), ("detail", error.detail)]

def RenderError.detail : RenderError → Value
  | missingValue parameter => .object [("name", .string parameter)]
  | notAnOption parameter value options =>
    .object [("name", .string parameter), ("value", .string value), ("options", .strings options)]
  | notANumber parameter value =>
    .object [("name", .string parameter), ("value", .string value)]
  | emptyCommand => .null

namespace Rendered

def encode (rendered : Rendered) : Value :=
  .object [("text", .string rendered.text), ("direction", rendered.direction.encode),
    ("template", .string rendered.template)]

def decode : Decoder Rendered := fun room tree => do
  let (room, fields) ← Decoder.fields? ["text", "direction", "template"] room tree
  match fields with
  | [text, direction, template] =>
    return {
      text := ← Decoder.required Decoder.string room text
      direction := ← Decoder.required Direction.decode room direction
      template := ← Decoder.required Decoder.string room template }
  | _ => none

end Rendered

def Bindings.encode (values : Bindings String) : Value :=
  .object (values.entries.map fun entry => (entry.1, .string entry.2))

namespace Request

def encode (request : Request) : Value :=
  .object [("command", .string request.command), ("values", request.values.encode),
    ("value", .option .string request.value)]

/-- Reads a request; only the command must be given. -/
def decode : Decoder Request := fun room tree => do
  let (room, fields) ← Decoder.fields? ["command", "values", "value"] room tree
  match fields with
  | [command, values, value] =>
    return {
      command := ← Decoder.required Decoder.string room command
      values := ← Decoder.defaulted .empty (Decoder.bindings Decoder.string) room values
      value := ← Decoder.defaulted none (Decoder.nullable Decoder.string) room value }
  | _ => none

end Request

namespace Control

def encode : Control → Value
  | textEntry parameter hint places =>
    .object [("control", .string "text_entry"), ("parameter", .string parameter),
      ("hint", .string hint), ("decimals", .option .nat places)]
  | selector parameter options default =>
    .object [("control", .string "selector"), ("parameter", .string parameter),
      ("options", .strings options), ("default", .option .string default)]

/-- The fields of a control of some kind: in an object all members but the one
with the kind, which must be readable values, or the rest of an array. -/
def fieldsAfterKind? (names : List String) (room : Nat) : Tree → Option (List Field)
  | .object members => do
    let members ← Decoder.keyed? members
    names.mapM (Decoder.field? (members.filter (·.1 ≠ "control")))
  | .array (_ :: items) => do
    let _ ← items.mapM (Tree.value? room)
    Decoder.positional? names items
  | _ => none

/-- The kind of a control: a member of an object, or the first item of an
array. -/
def kind? (room : Nat) : Tree → Option String
  | .object members => do
    let members ← Decoder.keyed? members
    let _ ← (members.filter (·.1 ≠ "control")).mapM fun member => member.2.value? room
    Decoder.required Decoder.string room (← Decoder.field? members "control")
  | .array (kind :: _) => Decoder.string room kind
  | _ => none

def decode : Decoder Control := fun room tree =>
  match room with
  | 0 => none
  | room + 1 => do
    let kind ← kind? room tree
    if kind = "text_entry" then
      match ← fieldsAfterKind? ["parameter", "hint", "decimals"] room tree with
      | [parameter, hint, places] =>
        return .textEntry (← Decoder.required Decoder.string room parameter)
          (← Decoder.required Decoder.string room hint)
          (← Decoder.optional (Decoder.word 32) room places)
      | _ => none
    else if kind = "selector" then
      match ← fieldsAfterKind? ["parameter", "options", "default"] room tree with
      | [parameter, options, default] =>
        return .selector (← Decoder.required Decoder.string room parameter)
          (← Decoder.required (Decoder.list Decoder.string) room options)
          (← Decoder.optional Decoder.string room default)
      | _ => none
    else none

end Control

namespace Layout

def encode (layout : Layout) : Value :=
  .object [("command", .string layout.command), ("direction", layout.direction.encode),
    ("template", .string layout.template), ("fires_immediately", .bool layout.firesImmediately),
    ("controls", .array (layout.controls.map Control.encode))]

def decode : Decoder Layout := fun room tree => do
  let (room, fields) ←
    Decoder.fields? ["command", "direction", "template", "fires_immediately", "controls"] room tree
  match fields with
  | [command, direction, template, firesImmediately, controls] =>
    return {
      command := ← Decoder.required Decoder.string room command
      direction := ← Decoder.required Direction.decode room direction
      template := ← Decoder.required Decoder.string room template
      firesImmediately := ← Decoder.required Decoder.bool room firesImmediately
      controls := ← Decoder.required (Decoder.list Control.decode) room controls }
  | _ => none

end Layout

end InstrumentBench
