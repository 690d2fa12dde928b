import InstrumentBench.Json.Decoder
import InstrumentBench.Json.Printer
import InstrumentBench.Storage.IoError

/-!
# Workbooks

A descriptor workbook has one sheet per instrument model.  Cells are text; in
a document they may also be numbers and truth values, which are turned into
text, or `null`, which is an empty cell.
-/

namespace InstrumentBench

open Json

/-- A header row and rows of cells; rows may be shorter than the header. -/
structure Sheet where
  name : String
  headers : List String
  rows : List (List String)
  deriving DecidableEq, Repr

/-- Sheets in their order. -/
structure Workbook where
  sheets : List Sheet
  deriving DecidableEq, Repr

/-- Why a workbook or one of its sheets cannot be had. -/
inductive WorkbookError where
  | sheetNotFound (name : String)
  | file (error : FileError)
  | json
  deriving DecidableEq, Repr

def WorkbookError.message : WorkbookError → String
  | sheetNotFound name => "sheet '" ++ name ++ "' not found"
  | file error => error.message
  | json => "invalid workbook JSON: " ++ FileError.jsonReason

/-- Whatever hands out the sheets of a workbook. -/
structure SheetSource where
  /-- The names of the sheets in their order. -/
  names : List String
  sheet : String → Except WorkbookError Sheet

namespace Sheet

/-- A cell of a row; past the end of the row it is empty. -/
def cellOf (row : List String) (column : Nat) : String :=
  row.getD column ""

/-- The cell in a row and a column, empty outside the sheet. -/
def cell (sheet : Sheet) (row column : Nat) : String :=
  cellOf (sheet.rows.getD row []) column

/-- The text of a cell of any kind. -/
def cellText : Value → String
  | .null => ""
  | .string text => text
  | .bool value => if value then "TRUE" else "FALSE"
  | other => other.compact

/-- Reads a sheet; headers and rows may be left out. -/
def decode : Decoder Sheet := fun room tree => do
  let (room, fields) ← Decoder.fields? ["name", "headers", "rows"] room tree
  match fields with
  | [name, headers, rows] =>
    let cells : Decoder String := fun room tree => (tree.value? room).map cellText
    return {
      name := ← Decoder.required Decoder.string room name
      headers := ← Decoder.defaulted [] (Decoder.list Decoder.string) room headers
      rows := ← Decoder.defaulted [] (Decoder.list (Decoder.list cells)) room rows }
  | _ => none

def encode (sheet : Sheet) : Value :=
  .object [("name", .string sheet.name), ("headers", .strings sheet.headers),
    ("rows", .array (sheet.rows.map .strings))]

end Sheet

namespace Workbook

def empty : Workbook := ⟨[]⟩

def names (workbook : Workbook) : List String :=
  workbook.sheets.map Sheet.name

/-- The first sheet of exactly this name. -/
def sheet (workbook : Workbook) (name : String) : Except WorkbookError Sheet :=
  match workbook.sheets.find? (·.name = name) with
  | some sheet => .ok sheet
  | none => .error (.sheetNotFound name)

/-- A workbook as the source of its own sheets. -/
def source (workbook : Workbook) : SheetSource :=
  ⟨workbook.names, workbook.sheet⟩

def decode : Decoder Workbook := fun room tree => do
  let (room, fields) ← Decoder.fields? ["sheets"] room tree
  match fields with
  | [sheets] => return ⟨← Decoder.required (Decoder.list Sheet.decode) room sheets⟩
  | _ => none

def encode (workbook : Workbook) : Value :=
  .object [("sheets", .array (workbook.sheets.map Sheet.encode))]

/-- The workbook that a text describes. -/
def read (text : String) : Except WorkbookError Workbook :=
  match decodeText? decode text with
  | some workbook => .ok workbook
  | none => .error .json

end Workbook

end InstrumentBench
