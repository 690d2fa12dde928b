import InstrumentBench.Command.Direction
import InstrumentBench.Script.Literal
import InstrumentBench.Text.Blank
import InstrumentBench.Text.Split

/-!
# Script statements

A line of a replay script opens a resource under a handle, sends a command
through a handle, or does nothing.  The keywords of statements are looked for
in a fixed order, so a line is read in one way only.
-/

namespace InstrumentBench

/-- What a line of a script does. -/
inductive Statement where
  | nothing
  | opens (handle resource : String)
  | sends (handle : String) (direction : Direction) (text : String)
  deriving DecidableEq, Repr

/-- What is wrong with a line of a script. -/
inductive StatementFault where
  | literal (fault : Literal.Fault)
  /-- Something else than the closing of a call follows its literal. -/
  | afterLiteral (closing : String)
  | afterResource
  | unrecognized (line : String)
  deriving DecidableEq, Repr

def StatementFault.message : StatementFault → String
  | literal fault => fault.message
  | afterLiteral closing => "expected '" ++ closing ++ "' after string literal"
  | afterResource => "expected ')' after resource name"
  | unrecognized line => "unrecognized statement '" ++ line ++ "'"

namespace Statement

/-- The line that makes the link library known. -/
def importLine : String := "import pyvisa"

/-- The line that makes the resource manager. -/
def managerLine : String := "rm = pyvisa.ResourceManager()"

/-- How the call that opens a resource starts. -/
def openCall : String := "rm.open_resource("

/-- How a call that shows a reply starts. -/
def printCall : String := "print("

/-- How a query through a handle starts. -/
def queryCall : String := ".query("

/-- How a setting through a handle starts. -/
def writeCall : String := ".write("

/-- What stands between a handle and what it is bound to. -/
def assignment : String := " = "

/-- A letter of the ASCII alphabet or an underscore. -/
def isNameStart (c : Char) : Bool :=
  c.isAlpha || c = '_'

/-- A character of a name after its first. -/
def isNameChar (c : Char) : Bool :=
  c.isAlphanum || c = '_'

/-- Whether a text is an identifier of ASCII characters. -/
def isIdentifier : List Char → Bool
  | [] => false
  | c :: rest => isNameStart c && rest.all isNameChar

/-- A literal and nothing but blanks and a closing after it. -/
def argument (closing : String) (fault : StatementFault) (text : List Char) :
    Except StatementFault String :=
  match Literal.decode text with
  | .error fault => .error (.literal fault)
  | .ok (value, rest) =>
    if Text.trimEnd rest = closing.toList then .ok (String.ofList value) else .error fault

/-- A call of a method through a handle, if the text contains one. -/
def call? (method closing : String) (direction : Direction) (text : List Char) :
    Option (Except StatementFault Statement) :=
  (Text.cutAt method.toList text).map fun (handle, rest) => do
    let value ← argument closing (.afterLiteral closing) rest
    return .sends (String.ofList (Text.trim handle)) direction value

/-- A query whose reply is shown, if the line contains one. -/
def query? (line : List Char) : Option (Except StatementFault Statement) :=
  (Text.afterOpening printCall.toList line).bind (call? queryCall "))" .get)

/-- The opening of a resource, if the line starts like one. -/
def opening? (line : List Char) : Option (Except StatementFault Statement) :=
  match Text.cutAt assignment.toList line with
  | none => none
  | some (handle, right) =>
    if isIdentifier handle then
      (Text.afterOpening openCall.toList right).map fun rest => do
        let resource ← argument ")" .afterResource rest
        return .opens (String.ofList handle) resource
    else
      none

/-- Whether a line, blanks around it apart, does nothing. -/
def isIdle (line : List Char) : Bool :=
  line.isEmpty || line.head? = some '#' || line = importLine.toList || line = managerLine.toList

/-- The statement of a line without blanks around it. -/
def read (line : List Char) : Except StatementFault Statement :=
  if isIdle line then .ok .nothing
  else
    (((query? line).or (opening? line)).or (call? writeCall ")" .set line)).getD
      (.error (.unrecognized (String.ofList line)))

end Statement

end InstrumentBench
