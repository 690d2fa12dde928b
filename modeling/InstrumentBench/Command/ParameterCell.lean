import InstrumentBench.Command.DescriptorError
import InstrumentBench.Command.Parameter
import InstrumentBench.Decimal.Digits
import InstrumentBench.Text.Blank
import InstrumentBench.Text.Split

/-!
# Parameter cells

The parameter column of a descriptor row lists the inputs of its command,
separated by `|`.  A bare name is a free text, `VOLT:V.3f` a number with three
decimal places, and `CH:C1;C2` a choice.  A blank cell lists no inputs.
-/

namespace InstrumentBench.ParameterCell

/-- The digits of a format token `V.<digits>f`, if the text has that shape. -/
def precision? (suffix : List Char) : Option (List Char) :=
  match suffix with
  | v :: '.' :: rest =>
    let digits := rest.dropLast
    if (v = 'V' ∨ v = 'v') ∧ (rest.getLast? = some 'f' ∨ rest.getLast? = some 'F') ∧
        digits ≠ [] ∧ digits.all Decimal.isDigit then
      some digits
    else
      none
  | _ => none

/-- The options of a choice: trimmed, empty ones left out, none twice.  `seen`
holds the options read before. -/
def readOptions (seen : List String) : List (List Char) → Except ParameterFault (List String)
  | [] => .ok []
  | piece :: rest =>
    let option := String.ofList (Text.trim piece)
    if option = "" then readOptions seen rest
    else if option ∈ seen then .error (.repeatedOption option)
    else do
      let others ← readOptions (option :: seen) rest
      return option :: others

/-- The kind that follows the colon of a specification. -/
def readKind (suffix : List Char) : Except ParameterFault ParameterKind :=
  match precision? suffix with
  | some digits =>
    if Decimal.value digits ≤ maxPlaces then .ok (.fixed (Decimal.value digits))
    else .error (.excessivePrecision (String.ofList digits))
  | none =>
    if ';' ∈ suffix then do
      let options ← readOptions [] (Text.fields ';' suffix)
      if options = [] then .error .noOptions else .ok (.choice options)
    else
      .error (.unknownSuffix (String.ofList suffix))

/-- One specification, already trimmed and not empty. -/
def readSegment (segment : List Char) : Except ParameterFault Parameter :=
  match Text.cutAtChar ':' segment with
  | none => .ok ⟨String.ofList segment, .free⟩
  | some (before, after) =>
    let name := Text.trim before
    if name = [] then .error .missingName
    else do
      let kind ← readKind (Text.trim after)
      return ⟨String.ofList name, kind⟩

/-- The specifications of a cell, none with a name in `seen`. -/
def readSegments (cell : String) (seen : List String) :
    List (List Char) → Except DescriptorError (List Parameter)
  | [] => .ok []
  | piece :: rest =>
    let segment := Text.trim piece
    if segment = [] then .error (.malformedParameter cell .emptySegment)
    else
      match readSegment segment with
      | .error fault => .error (.malformedParameter (String.ofList segment) fault)
      | .ok parameter =>
        if parameter.name ∈ seen then .error (.duplicateParameter parameter.name)
        else do
          let others ← readSegments cell (parameter.name :: seen) rest
          return parameter :: others

/-- The parameters listed by a cell, in order. -/
def read (cell : String) : Except DescriptorError (List Parameter) :=
  let text := Text.trim cell.toList
  if text = [] then .ok []
  else readSegments (String.ofList text) [] (Text.fields '|' cell.toList)

end InstrumentBench.ParameterCell
