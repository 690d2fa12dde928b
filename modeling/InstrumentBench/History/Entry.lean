import InstrumentBench.Command.Direction
import InstrumentBench.History.Timestamp

/-!
# History entries

An entry records one command that reached its instrument, and the reply.
-/

namespace InstrumentBench

/-- A command that was sent. -/
structure Entry where
  /-- When it was sent, in milliseconds since 1970 began. -/
  millis : Nat
  direction : Direction
  resource : String
  /-- The literal text sent. -/
  text : String
  response : Option String
  deriving DecidableEq, Repr

namespace Entry

/-- A text without its line breaks. -/
def singleLine (text : String) : String :=
  String.ofList (text.toList.filter fun c => c ≠ '\r' ∧ c ≠ '\n')

/-- An entry as a line for people to read. -/
def auditLine (entry : Entry) : String :=
  let reply :=
    match entry.response with
    | some response => " --> " ++ singleLine response
    | none => ""
  "[" ++ Timestamp.text entry.millis ++ "] " ++ entry.resource ++ " " ++ entry.direction.label ++
    ": " ++ singleLine entry.text ++ reply

end Entry

end InstrumentBench
