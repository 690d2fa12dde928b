import InstrumentBench.Script.Replay

/-!
# Recorders

The record of the commands a session has sent, in order.  An entry recorded
with the clock is never stamped before the entry it follows.
-/

namespace InstrumentBench

/-- The entries recorded, first to last. -/
structure Recorder where
  entries : List Entry
  deriving DecidableEq, Repr

namespace Recorder

def empty : Recorder := ⟨[]⟩

def size (recorder : Recorder) : Nat :=
  recorder.entries.length

/-- Adds an entry as it is. -/
def append (recorder : Recorder) (entry : Entry) : Recorder :=
  ⟨recorder.entries ++ [entry]⟩

/-- The time stamp of the last entry, or the beginning of time. -/
def lastMillis (recorder : Recorder) : Nat :=
  (recorder.entries.getLast?.map Entry.millis).getD 0

/-- The entry for a command sent when the clock shows `now`. -/
def stamped (recorder : Recorder) (now : Nat) (direction : Direction) (resource text : String)
    (response : Option String) : Entry :=
  ⟨max now recorder.lastMillis, direction, resource, text, response⟩

/-- Adds an entry for a command sent when the clock shows `now`. -/
def record (recorder : Recorder) (now : Nat) (direction : Direction) (resource text : String)
    (response : Option String) : Entry × Recorder :=
  let entry := recorder.stamped now direction resource text response
  (entry, recorder.append entry)

/-- The script that replays the entries. -/
def script (recorder : Recorder) : String :=
  Script.emit recorder.entries

/-- One line per entry for people to read. -/
def auditLog (recorder : Recorder) : List String :=
  recorder.entries.map Entry.auditLine

end Recorder

end InstrumentBench
