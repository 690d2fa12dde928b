import InstrumentBench.Json.Decoder
import InstrumentBench.Json.Printer
import InstrumentBench.Storage.Replacement

/-!
# Document files

Files that hold one JSON document each.  A document is written in the pretty
layout and replaces the old file as a whole.
-/

namespace InstrumentBench

/-- Reads the document in a file. -/
def readDocument {α : Type} (decode : Json.Decoder α) (path : String) : Attempt FileError α :=
  ExceptT.mk do
    match ← (readText path).run with
    | .error error => return .error (.io error)
    | .ok text =>
      match Json.decodeText? decode text with
      | some value => return .ok value
      | none => return .error .json

/-- Replaces a file by one that holds a document. -/
def writeDocument (path : String) (value : Json.Value) : Attempt FileError Unit :=
  replaceFile path value.pretty.toUTF8

end InstrumentBench
