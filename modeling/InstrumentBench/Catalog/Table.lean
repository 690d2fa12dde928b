import InstrumentBench.Command.Definition
import InstrumentBench.Text.Lowercase
import InstrumentBench.Workbook

/-!
# Command tables

A table holds the compiled commands of one instrument model.  Rows that do not
compile are left out and reported as warnings; they never affect other rows.
-/

namespace InstrumentBench

/-- A problem that does not keep a table from being used.  Rows are numbered as
in the sheet, the header being row 1; a warning without a row is about the
whole sheet. -/
structure LoadWarning where
  sheet : String
  row : Option Nat
  error : DescriptorError
  deriving DecidableEq, Repr

def LoadWarning.message (warning : LoadWarning) : String :=
  let place :=
    match warning.row with
    | some row => "row " ++ toString row ++ ": "
    | none => ""
  "[" ++ warning.sheet ++ "] " ++ place ++ warning.error.message

/-- The compiled commands of one model. -/
structure Table where
  /-- The name of the sheet. -/
  model : String
  commands : List Definition
  warnings : List LoadWarning
  deriving DecidableEq, Repr

namespace Table

/-- The command of a name, blanks around it and the case of letters apart. -/
def find? (table : Table) (name : String) : Option Definition :=
  let wanted := Text.lowercased (Text.trimmed name)
  table.commands.find? fun command => Text.lowercased command.name = wanted

end Table

/-- The positions of the descriptor columns in a sheet. -/
structure Columns where
  name : Nat
  direction : Nat
  template : Nat
  parameters : Option Nat
  deriving DecidableEq, Repr

namespace Columns

/-- The headers of the column with the parameters; the first is preferred. -/
def parameterColumns : List String := ["Parameter", "Parameters"]

/-- The first column whose header is `wanted`, blanks around it and the case of
letters apart. -/
def position? (headers : List String) (wanted : String) : Option Nat :=
  headers.findIdx? fun header =>
    Text.lowercased (Text.trimmed header) = Text.lowercased wanted

/-- The position of a column that must be there. -/
def require (headers : List String) (wanted : String) : Except DescriptorError Nat :=
  match position? headers wanted with
  | some column => .ok column
  | none => .error (.missingColumn wanted)

/-- The positions of the descriptor columns; only the parameters may be
missing. -/
def resolve (headers : List String) : Except DescriptorError Columns := do
  let name ← require headers Row.nameColumn
  let direction ← require headers Row.directionColumn
  let template ← require headers Row.templateColumn
  return ⟨name, direction, template, parameterColumns.findSome? (position? headers)⟩

/-- The descriptor cells of a row. -/
def row (columns : Columns) (cells : List String) : Row where
  name := Sheet.cellOf cells columns.name
  direction := Sheet.cellOf cells columns.direction
  template := Sheet.cellOf cells columns.template
  parameters :=
    match columns.parameters with
    | some column => Sheet.cellOf cells column
    | none => ""

end Columns

namespace Table

/-- The commands and the warnings of rows, the first being number `number` in
its sheet.  Blank rows are skipped. -/
def compileRows (sheet : String) (columns : Columns) (number : Nat) :
    List (List String) → List Definition × List LoadWarning
  | [] => ([], [])
  | cells :: rest =>
    let (commands, warnings) := compileRows sheet columns (number + 1) rest
    let row := columns.row cells
    if row.isBlank then (commands, warnings)
    else
      match row.compile with
      | .ok command => (command :: commands, warnings)
      | .error error => (commands, ⟨sheet, some number, error⟩ :: warnings)

/-- Compiles a sheet; its warnings follow those given. -/
def ofSheet (sheet : Sheet) (warnings : List LoadWarning) : Except DescriptorError Table := do
  let columns ← Columns.resolve sheet.headers
  let (commands, found) := compileRows sheet.name columns 2 sheet.rows
  return ⟨sheet.name, commands, warnings ++ found⟩

end Table

/-- The form in which model names are compared. -/
def normalizeModel (model : String) : String :=
  Text.lowercased (Text.trimmed model)

/-- The names whose models have not been met before; `seen` holds the
normalized names met. -/
def distinctFrom (seen : List String) : List String → List String
  | [] => []
  | name :: rest =>
    let key := normalizeModel name
    if key = "" ∨ key ∈ seen then distinctFrom seen rest
    else name :: distinctFrom (key :: seen) rest

/-- One sheet name per model, in order; blank names name no model. -/
def distinctModels (names : List String) : List String :=
  distinctFrom [] names

/-- The first name for a model, and the later names that are the same after
normalization. -/
def matchSheet? (names : List String) (model : String) : Option (String × List String) :=
  let wanted := normalizeModel model
  if wanted = "" then none
  else
    match names.filter (normalizeModel · = wanted) with
    | [] => none
    | chosen :: ignored => some (chosen, ignored)

/-- The table of a model; none if no sheet describes the model. -/
def loadTable (source : SheetSource) (model : String) : Except DescriptorError (Option Table) :=
  match matchSheet? source.names model with
  | none => .ok none
  | some (chosen, ignored) =>
    let warnings : List LoadWarning :=
      if ignored = [] then []
      else [⟨chosen, none, .ambiguousSheet (Text.trimmed model) chosen ignored⟩]
    match source.sheet chosen with
    | .error error => .error (.source error.message)
    | .ok sheet => (Table.ofSheet sheet warnings).map some

end InstrumentBench
