import InstrumentBench.Text.Listing

/-!
# Descriptor errors

Everything that can be wrong with a descriptor sheet, from a single cell to
the choice of the sheet, with the wording shown to the operator.
-/

namespace InstrumentBench

/-- What is wrong with one specification in a parameter cell. -/
inductive ParameterFault where
  | emptySegment
  | missingName
  | excessivePrecision (digits : String)
  | repeatedOption (option : String)
  | noOptions
  | unknownSuffix (suffix : String)
  deriving DecidableEq, Repr

/-- The greatest number of decimal places a parameter may ask for. -/
def maxPlaces : Nat := 30

namespace ParameterFault

def message : ParameterFault → String
  | emptySegment => "empty segment between '|' separators"
  | missingName => "missing parameter name"
  | excessivePrecision digits =>
    "precision " ++ digits ++ " exceeds the maximum of " ++ toString maxPlaces
  | repeatedOption option => "option '" ++ option ++ "' is listed more than once"
  | noOptions => "option list is empty"
  | unknownSuffix suffix =>
    "'" ++ suffix ++ "' is neither a V.<digits>f format token nor a ';'-separated option list"

end ParameterFault

/-- What is wrong with a command template. -/
inductive TemplateFault where
  | nested (openedAt : Nat)
  | unmatched
  | emptyPlaceholder
  | unclosed
  deriving DecidableEq, Repr

namespace TemplateFault

def message : TemplateFault → String
  | nested openedAt => "nested '\x7b' inside placeholder opened at byte " ++ toString openedAt
  | unmatched => "unmatched '\x7d'"
  | emptyPlaceholder => "empty placeholder '\x7b\x7d'"
  | unclosed => "unclosed '\x7b'"

end TemplateFault

/-- Why a descriptor row, sheet or workbook cannot be used. -/
inductive DescriptorError where
  | malformedParameter (segment : String) (fault : ParameterFault)
  | duplicateParameter (name : String)
  | missingColumn (column : String)
  | invalidDirection (token : String)
  | malformedTemplate (offset : Nat) (fault : TemplateFault)
  /-- The names used by the template and those declared, each in order. -/
  | bindingMismatch (placeholders parameters : List String)
  | ambiguousSheet (model chosen : String) (ignored : List String)
  /-- The workbook does not hand out the sheet. -/
  | source (reason : String)
  deriving DecidableEq, Repr

namespace DescriptorError

/-- The message for a malformed template with a given reason. -/
def templateMessage (offset : Nat) (reason : String) : String :=
  "malformed template at byte " ++ toString offset ++ ": " ++ reason

def message : DescriptorError → String
  | malformedParameter segment fault =>
    "malformed parameter spec '" ++ segment ++ "': " ++ fault.message
  | duplicateParameter name => "parameter '" ++ name ++ "' is declared more than once"
  | missingColumn column => "missing required column '" ++ column ++ "'"
  | invalidDirection token => "invalid direction '" ++ token ++ "', expected GET or SET"
  | malformedTemplate offset fault => templateMessage offset fault.message
  | bindingMismatch placeholders parameters =>
    "template placeholders " ++ Text.listedSet placeholders ++
      " do not match declared parameters " ++ Text.listedSet parameters
  | ambiguousSheet model chosen ignored =>
    "model '" ++ model ++ "' matches several sheets; using '" ++ chosen ++ "', ignoring " ++
      Text.listedList ignored
  | source reason => "descriptor source error: " ++ reason

/-- The stable code of an error, which programs match on. -/
def code : DescriptorError → String
  | malformedParameter .. => "MalformedParameterSpec"
  | duplicateParameter .. => "DuplicateParameterName"
  | missingColumn .. => "MissingRequiredColumn"
  | invalidDirection .. => "InvalidDirection"
  | malformedTemplate .. => "MalformedTemplate"
  | bindingMismatch .. => "PlaceholderParameterMismatch"
  | ambiguousSheet .. => "AmbiguousSheetMatch"
  | source .. => "Source"

end DescriptorError

end InstrumentBench
