import InstrumentBench.Catalog.Table
import InstrumentBench.Command.Document

/-!
# Tables in documents

How command tables and their warnings are written in JSON documents, and the
schema that workbook documents follow.
-/

namespace InstrumentBench

open Json

def LoadWarning.encode (warning : LoadWarning) : Value :=
  .object [("sheet", .string warning.sheet), ("row", .option .nat warning.row),
    ("error", warning.error.encode)]

def Table.encode (table : Table) : Value :=
  .object [("model", .string table.model),
    ("commands", .array (table.commands.map Definition.encode)),
    ("warnings", .array (table.warnings.map LoadWarning.encode))]

namespace Workbook

/-- The schema of an array with given items. -/
def arraySchema (items : Value) (fields : List (String × Value)) : Value :=
  .object ([("type", .string "array"), ("items", items)] ++ fields)

/-- The schema of a sheet in a workbook document. -/
def sheetSchema : Value :=
  let text : Value := .object [("type", .string "string")]
  .object [
    ("description", .string "One sheet: a header row plus data rows of text cells."),
    ("type", .string "object"),
    ("required", .strings ["name"]),
    ("properties", .object [
      ("name", text),
      ("headers", arraySchema text [("default", .array [])]),
      ("rows", arraySchema (arraySchema (.bool true) []) [
        ("default", .array []),
        ("description", .string ("Numeric and boolean cells are converted to text; " ++
          "\x60null\x60 becomes an empty cell."))])])]

def schema : Value :=
  Value.sorted (.object [
    ("$schema", .string "http://json-schema.org/draft-07/schema#"),
    ("title", .string "Workbook"),
    ("description", .string "An in-memory workbook."),
    ("type", .string "object"),
    ("required", .strings ["sheets"]),
    ("properties", .object [
      ("sheets", arraySchema (.object [("$ref", .string "#/definitions/Sheet")]) [])]),
    ("definitions", .object [("Sheet", sheetSchema)])])

end Workbook

end InstrumentBench
