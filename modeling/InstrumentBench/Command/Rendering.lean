import InstrumentBench.Bindings
import InstrumentBench.Command.Definition
import InstrumentBench.Decimal.Fixed

/-!
# Rendering commands

Rendering turns a definition and the values given for its parameters into the
literal text that is sent.  Every value is checked against the kind of its
parameter first, in column order, and the first invalid one is reported.
-/

namespace InstrumentBench

/-- Why a command cannot be rendered. -/
inductive RenderError where
  | missingValue (parameter : String)
  | notAnOption (parameter value : String) (options : List String)
  | notANumber (parameter value : String)
  | emptyCommand
  deriving DecidableEq, Repr

namespace RenderError

def message : RenderError → String
  | missingValue parameter => "missing value for parameter '" ++ parameter ++ "'"
  | notAnOption parameter value options =>
    "'" ++ value ++ "' is not a valid choice for '" ++ parameter ++ "' (expected one of " ++
      Text.listedList options ++ ")"
  | notANumber parameter value =>
    "'" ++ value ++ "' is not a finite number (parameter '" ++ parameter ++ "')"
  | emptyCommand => "command text is empty"

/-- The stable code of an error, which programs match on. -/
def code : RenderError → String
  | missingValue .. => "MissingParameterValue"
  | notAnOption .. => "InvalidEnumValue"
  | notANumber .. => "NumericParseError"
  | emptyCommand => "EmptyCommand"

end RenderError

/-- The literal text to send, with the template it was made from; text typed by
the operator is its own template. -/
structure Rendered where
  text : String
  direction : Direction
  template : String
  deriving DecidableEq, Repr

/-- The values given for parameters, by name. -/
abbrev Values := Bindings String

namespace Parameter

/-- A given text without the blanks around it, if something is left. -/
def present? (raw : Option String) : Option String :=
  match raw with
  | none => none
  | some text => if Text.trimmed text = "" then none else some (Text.trimmed text)

/-- Checks a raw value against the kind of the parameter and writes it. -/
def format (parameter : Parameter) (raw : Option String) : Except RenderError String :=
  match parameter.kind with
  | .choice options =>
    match raw with
    | none => .error (.missingValue parameter.name)
    | some value =>
      if value ∈ options then .ok value
      else .error (.notAnOption parameter.name value options)
  | .free =>
    match present? raw with
    | none => .error (.missingValue parameter.name)
    | some value => .ok value
  | .fixed places =>
    match present? raw with
    | none => .error (.missingValue parameter.name)
    | some value =>
      match Decimal.fixed? places value with
      | some text => .ok text
      | none => .error (.notANumber parameter.name value)

end Parameter

namespace Definition

/-- The formatted values of the parameters in column order, by name. -/
def formatAll (values : Values) : List Parameter → Except RenderError (List (String × String))
  | [] => .ok []
  | parameter :: rest => do
    let text ← parameter.format (values.find? parameter.name)
    let others ← formatAll values rest
    return (parameter.name, text) :: others

/-- Renders a definition with the values given for its parameters. -/
def render (definition : Definition) (values : Values) : Except RenderError Rendered := do
  let formatted ← formatAll values definition.parameters
  match definition.template.substitute (fun name => formatted.lookup name) with
  | .ok text => .ok ⟨text, definition.direction, definition.template.source⟩
  | .error name => .error (.missingValue name)

end Definition

/-- An invocation by the operator.  A bare `value` may stand for the values map
of a command with exactly one parameter. -/
structure Request where
  command : String
  values : Values
  value : Option String
  deriving DecidableEq, Repr

namespace Request

/-- An invocation with a bare value only. -/
def single (command value : String) : Request := ⟨command, .empty, some value⟩

/-- The values for a definition: those given by name, or else the bare value
for the only parameter, trimmed and unless it is blank. -/
def resolve (request : Request) (definition : Definition) : Values :=
  if request.values.isEmpty then
    match Parameter.present? request.value, definition.parameters with
    | some value, [only] => Bindings.empty.bind only.name value
    | _, _ => request.values
  else
    request.values

end Request

namespace Rendered

/-- Text typed by the operator, sent as it is; a question mark anywhere makes
it a query. -/
def ofTyped (text : String) : Except RenderError Rendered :=
  let text := Text.trimmed text
  if text = "" then .error .emptyCommand
  else .ok ⟨text, if '?' ∈ text.toList then .get else .set, text⟩

end Rendered

end InstrumentBench
