import InstrumentBench.Command.Document
import InstrumentBench.History.Recorder

/-!
# Histories in documents

How entries and the steps of a script are written in JSON documents and how
entries are read from them, and what the errors of a script carry.
-/

namespace InstrumentBench

open Json

namespace Entry

def encode (entry : Entry) : Value :=
  .object [("timestamp_ms", .nat entry.millis), ("direction", entry.direction.encode),
    ("resource", .string entry.resource), ("sent_text", .string entry.text),
    ("response", .option .string entry.response)]

/-- Reads an entry; the response may be left out. -/
def decode : Decoder Entry := fun room tree => do
  let (room, fields) ←
    Decoder.fields? ["timestamp_ms", "direction", "resource", "sent_text", "response"] room tree
  match fields with
  | [millis, direction, resource, text, response] =>
    return {
      millis := ← Decoder.required (Decoder.word 64) room millis
      direction := ← Decoder.required Direction.decode room direction
      resource := ← Decoder.required Decoder.string room resource
      text := ← Decoder.required Decoder.string room text
      response := ← Decoder.optional Decoder.string room response }
  | _ => none

end Entry

def Step.encode (step : Step) : Value :=
  .object [("resource", .string step.resource), ("direction", step.direction.encode),
    ("text", .string step.text)]

namespace ScriptError

/-- The stable code of an error, which programs match on. -/
def code : ScriptError → String
  | malformed .. => "Syntax"
  | unknownHandle .. => "UnknownHandle"

def detail : ScriptError → Value
  | malformed line fault => .object [("line", .nat line), ("message", .string fault.message)]
  | unknownHandle line handle => .object [("line", .nat line), ("handle", .string handle)]

end ScriptError

end InstrumentBench
