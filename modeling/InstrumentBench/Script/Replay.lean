import InstrumentBench.Bindings
import InstrumentBench.History.Entry
import InstrumentBench.Script.Statement

/-!
# Replay scripts

A history is exported as a script that replays it, and such a script is read
back into the commands it sends.  Each resource is opened once, under handles
numbered in the order of first appearance.
-/

namespace InstrumentBench

/-- One command that a script sends. -/
structure Step where
  resource : String
  direction : Direction
  text : String
  deriving DecidableEq, Repr

/-- Why a script cannot be read, with the number of the line at fault. -/
inductive ScriptError where
  | malformed (line : Nat) (fault : StatementFault)
  | unknownHandle (line : Nat) (handle : String)
  deriving DecidableEq, Repr

namespace ScriptError

/-- A message about a line. -/
def lineMessage (line : Nat) (text : String) : String :=
  "line " ++ toString line ++ ": " ++ text

def message : ScriptError → String
  | malformed line fault => lineMessage line fault.message
  | unknownHandle line handle =>
    lineMessage line ("'" ++ handle ++ "' is used before it is opened")

end ScriptError

namespace Script

/-- The first line of every script. -/
def header : String := "# Generated by scpi-console"

/-- The names of a list without repetitions, in the order of first appearance;
`seen` holds names to leave out. -/
def firstsFrom (seen : List String) : List String → List String
  | [] => []
  | name :: rest =>
    if name ∈ seen then firstsFrom seen rest else name :: firstsFrom (name :: seen) rest

/-- The resources of a history, each once, in the order of first appearance. -/
def resources (entries : List Entry) : List String :=
  firstsFrom [] (entries.map Entry.resource)

/-- The handle with a number, counted from zero. -/
def handle (index : Nat) : String :=
  "inst_" ++ toString (index + 1)

/-- The line that opens a resource. -/
def openLine (index : Nat) (resource : String) : String :=
  handle index ++ Statement.assignment ++ Statement.openCall ++ Literal.quote resource ++ ")"

/-- The line that sends an entry again. -/
def sendLine (resources : List String) (entry : Entry) : String :=
  let name := handle (resources.idxOf entry.resource)
  let text := Literal.quote entry.text
  match entry.direction with
  | .get => Statement.printCall ++ name ++ Statement.queryCall ++ text ++ "))"
  | .set => name ++ Statement.writeCall ++ text ++ ")"

/-- The lines of the script for a history. -/
def lines (entries : List Entry) : List String :=
  let opened := resources entries
  [header, Statement.importLine, "", Statement.managerLine] ++
    opened.mapIdx openLine ++
    (if entries.isEmpty then [] else [""]) ++
    entries.map (sendLine opened)

/-- The script that replays a history. -/
def emit (entries : List Entry) : String :=
  String.join ((lines entries).map (· ++ "\n"))

/-- The commands sent by lines, the first of them having a given number, with
the handles opened before. -/
def readFrom (line : Nat) (handles : Bindings String) :
    List (List Char) → Except ScriptError (List Step)
  | [] => .ok []
  | raw :: rest =>
    match Statement.read (Text.trim raw) with
    | .error fault => .error (.malformed line fault)
    | .ok .nothing => readFrom (line + 1) handles rest
    | .ok (.opens handle resource) => readFrom (line + 1) (handles.bind handle resource) rest
    | .ok (.sends handle direction text) =>
      match handles.find? handle with
      | none => .error (.unknownHandle line handle)
      | some resource => do
        let others ← readFrom (line + 1) handles rest
        return ⟨resource, direction, text⟩ :: others

/-- The commands that a script sends, in order. -/
def read (source : String) : Except ScriptError (List Step) :=
  readFrom 1 .empty (Text.fields '\n' source.toList)

end Script

end InstrumentBench
