import InstrumentBench.Command.Document
import InstrumentBench.Configuration
import InstrumentBench.History.Timestamp

/-!
# Command logs

Every command handed to an instrument, answered or not, is logged as one line
of JSON in the log file of its day.  Logging is best effort: what goes wrong
with it stays without consequence.
-/

namespace InstrumentBench

open Json

/-- A command handed to an instrument, with its reply or the reason why it
failed. -/
structure LogRecord where
  millis : Nat
  resource : String
  direction : Direction
  command : String
  outcome : Except String (Option String)

namespace LogRecord

/-- A record as a document: a reply and a reason are left out if there are
none. -/
def encode (record : LogRecord) : Value :=
  let outcome :=
    match record.outcome with
    | .ok none => [("ok", Value.bool true)]
    | .ok (some response) => [("ok", .bool true), ("response", .string response)]
    | .error reason => [("ok", .bool false), ("error", .string reason)]
  .object ([("ts_ms", .nat record.millis), ("resource", .string record.resource),
    ("direction", record.direction.encode), ("command", .string record.command)] ++ outcome)

/-- A record as a line of a log file. -/
def line (record : LogRecord) : String :=
  record.encode.compact ++ "\n"

end LogRecord

namespace CommandLog

/-- The log file of a day. -/
def file (directory : String) (millis : Nat) : String :=
  Path.join (Configuration.logDirectory directory) (Timestamp.dateText millis ++ ".jsonl")

/-- Logs a command below a configuration directory. -/
def add (directory resource : String) (direction : Direction) (command : String)
    (outcome : Except String (Option String)) : Action Unit := do
  let millis ← Action.reply .now
  let _ ← Action.reply (.makeDirectories (Configuration.logDirectory directory))
  let record : LogRecord := ⟨millis, resource, direction, command, outcome⟩
  let _ ← Action.reply (.appendFile (file directory millis) record.line.toUTF8)

end CommandLog

end InstrumentBench
