import InstrumentBench.Command.Direction
import InstrumentBench.Command.ParameterCell
import InstrumentBench.Command.Template

/-!
# Command definitions

A descriptor row has four cells: the name of a command, its direction, its
template and its parameters.  A definition is a row that has been checked; in
particular the template uses exactly the parameters that are declared.
-/

namespace InstrumentBench

/-- The four descriptor cells of a sheet row. -/
structure Row where
  name : String
  direction : String
  template : String
  parameters : String
  deriving DecidableEq, Repr

/-- A checked command. -/
structure Definition where
  name : String
  direction : Direction
  template : Template
  parameters : List Parameter
  deriving DecidableEq, Repr

namespace Definition

/-- The names of the parameters in column order. -/
def parameterNames (definition : Definition) : List String :=
  definition.parameters.map Parameter.name

/-- The parameter of exactly this name. -/
def parameter? (definition : Definition) (name : String) : Option Parameter :=
  definition.parameters.find? (·.name = name)

end Definition

namespace Row

/-- The header of the column with the command names. -/
def nameColumn : String := "Name"

/-- The header of the column with the directions. -/
def directionColumn : String := "GET/SET"

/-- The header of the column with the templates. -/
def templateColumn : String := "CMD"

/-- Whether all four cells are blank. -/
def isBlank (row : Row) : Bool :=
  Text.allBlank row.name && Text.allBlank row.direction && Text.allBlank row.template &&
    Text.allBlank row.parameters

/-- The trimmed text of a cell that must not be blank. -/
def required (column cell : String) : Except DescriptorError String :=
  let text := Text.trimmed cell
  if text = "" then .error (.missingColumn column) else .ok text

/-- The direction named by a cell. -/
def readDirection (cell : String) : Except DescriptorError Direction :=
  match Direction.read? cell with
  | some direction => .ok direction
  | none => .error (.invalidDirection (Text.trimmed cell))

/-- The template in a cell, offsets counted from its first character that is
not blank. -/
def readTemplate (source : String) : Except DescriptorError Template :=
  match Template.read source with
  | .ok template => .ok template
  | .error flaw => .error (.malformedTemplate flaw.offset flaw.fault)

/-- Checks that the placeholders are the declared parameters, as sets. -/
def checkBindings (template : Template) (parameters : List Parameter) :
    Except DescriptorError Unit :=
  let declared := Text.nameSet (parameters.map Parameter.name)
  if template.names = declared then .ok () else .error (.bindingMismatch template.names declared)

/-- Compiles a row.  Of several faults the first in the order name, template
cell, direction, template, parameters, bindings is reported. -/
def compile (row : Row) : Except DescriptorError Definition := do
  let name ← required nameColumn row.name
  let source ← required templateColumn row.template
  let direction ← readDirection row.direction
  let template ← readTemplate source
  let parameters ← ParameterCell.read row.parameters
  checkBindings template parameters
  return ⟨name, direction, template, parameters⟩

end Row

end InstrumentBench
