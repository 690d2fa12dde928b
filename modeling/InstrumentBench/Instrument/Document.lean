import InstrumentBench.Command.Document
import InstrumentBench.Instrument.Link

/-!
# Instruments in documents

How device kinds, identities and instruments are written in JSON documents and
read from them, and what the errors of a link carry.  A nickname is the member
`alias`.
-/

namespace InstrumentBench

open Json

namespace DeviceKind

def encode (kind : DeviceKind) : Value :=
  .string kind.label

def decode : Decoder DeviceKind :=
  Decoder.oneOf [(visa.label, visa), (serial.label, serial)]

end DeviceKind

namespace Identity

def encode (identity : Identity) : Value :=
  .object [("vendor", .string identity.vendor), ("model", .string identity.model),
    ("serial", .string identity.serial)]

def decode : Decoder Identity := fun room tree => do
  let (room, fields) ← Decoder.fields? ["vendor", "model", "serial"] room tree
  match fields with
  | [vendor, model, serial] =>
    return {
      vendor := ← Decoder.required Decoder.string room vendor
      model := ← Decoder.required Decoder.string room model
      serial := ← Decoder.required Decoder.string room serial }
  | _ => none

end Identity

namespace Instrument

def encode (instrument : Instrument) : Value :=
  .object [("resource", .string instrument.resource), ("kind", instrument.kind.encode),
    ("identity", instrument.identity.encode), ("alias", .option .string instrument.nickname)]

/-- Reads an instrument; the nickname may be left out. -/
def decode : Decoder Instrument := fun room tree => do
  let (room, fields) ← Decoder.fields? ["resource", "kind", "identity", "alias"] room tree
  match fields with
  | [resource, kind, identity, nickname] =>
    return {
      resource := ← Decoder.required Decoder.string room resource
      kind := ← Decoder.required DeviceKind.decode room kind
      identity := ← Decoder.required Identity.decode room identity
      nickname := ← Decoder.optional Decoder.string room nickname }
  | _ => none

end Instrument

namespace LinkError

/-- The stable code of an error, which programs match on. -/
def code : LinkError → String
  | unreachable .. => "Unreachable"
  | noResponse .. => "NoResponse"
  | io .. => "Io"
  | unknownIdentity .. => "InvalidIdentity"

def detail : LinkError → Value
  | unreachable resource => .object [("resource", .string resource)]
  | noResponse resource command =>
    .object [("resource", .string resource), ("command", .string command)]
  | io resource reason => .object [("resource", .string resource), ("message", .string reason)]
  | unknownIdentity resource response =>
    .object [("resource", .string resource), ("response", .string response)]

end LinkError

end InstrumentBench
