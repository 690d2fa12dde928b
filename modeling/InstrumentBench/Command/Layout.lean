import InstrumentBench.Bindings
import InstrumentBench.Command.Definition

/-!
# Input layouts

What the operator fills in before a command is sent: one control per
parameter, in column order.  A command without inputs is sent straight away.
-/

namespace InstrumentBench

/-- One input control. -/
inductive Control where
  /-- A text field with a hint; `places` is the count of decimal places the
  text will be written with, if any. -/
  | textEntry (parameter hint : String) (places : Option Nat)
  /-- A choice among options, with the one selected at first. -/
  | selector (parameter : String) (options : List String) (default : Option String)
  deriving DecidableEq, Repr

/-- The name of the parameter that a control fills. -/
def Control.parameter : Control → String
  | .textEntry parameter _ _ => parameter
  | .selector parameter _ _ => parameter

/-- The controls of one command. -/
structure Layout where
  command : String
  direction : Direction
  template : String
  firesImmediately : Bool
  controls : List Control
  deriving DecidableEq, Repr

namespace Layout

/-- The control for a parameter.  A default that is none of the options is left
out. -/
def controlFor (parameter : Parameter) (default : Option String) : Control :=
  match parameter.kind with
  | .choice options => .selector parameter.name options (default.filter (· ∈ options))
  | .free => .textEntry parameter.name parameter.name none
  | .fixed places => .textEntry parameter.name parameter.name (some places)

/-- The layout of a definition with options selected beforehand. -/
def ofDefinition (definition : Definition) (defaults : Bindings String) : Layout :=
  let controls := definition.parameters.map fun parameter =>
    controlFor parameter (defaults.find? parameter.name)
  { command := definition.name
    direction := definition.direction
    template := definition.template.source
    firesImmediately := controls.isEmpty
    controls := controls }

/-- The names of the parameters that the controls fill. -/
def parameters (layout : Layout) : List String :=
  layout.controls.map Control.parameter

/-- There is one control per parameter, in column order. -/
theorem parameters_ofDefinition (definition : Definition) (defaults : Bindings String) :
    (ofDefinition definition defaults).parameters = definition.parameterNames := by
  unfold ofDefinition parameters Definition.parameterNames
  rw [List.map_map]
  apply List.map_congr_left
  intro parameter _
  simp only [Function.comp, controlFor]
  split <;> rfl

end Layout

end InstrumentBench
