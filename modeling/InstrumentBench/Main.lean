import Std.Time.Format
import InstrumentBench.CommandLine.Tasks

/-!
# The program

The outer layer: the questions of an action are put to the machine that the
program runs on, and the outcome is handed to its streams.
-/

namespace InstrumentBench

/-- The failure that a file operation of the machine reports. -/
def IoError.ofMachine : IO.Error → IoError
  | .noFileOrDirectory .. => .notFound
  | .alreadyExists .. => .alreadyExists
  | .unsatisfiedConstraints .. => .directoryNotEmpty
  | .inappropriateType _ 20 _ => .notADirectory
  | .inappropriateType _ 21 _ => .isADirectory
  | .illegalOperation 21 _ => .isADirectory
  | .invalidArgument _ 22 _ => .invalidMove
  | .invalidArgument _ 36 _ => .nameTooLong
  | .resourceExhausted _ 36 _ => .nameTooLong
  | error => .other (toString error)

/-- What an operation of the machine gives, its failure included. -/
def tried {α : Type} (operation : IO α) : IO (Except IoError α) := do
  match ← operation.toBaseIO with
  | .ok value => return .ok value
  | .error error => return .error (.ofMachine error)

/-- Adds to the end of a file. -/
def extendFile (path : String) (data : ByteArray) : IO Unit := do
  let handle ← IO.FS.Handle.mk path .append
  handle.write data
  handle.flush

/-- Whether something stands where a path leads. -/
def leadsSomewhere (path : String) : IO Bool := do
  return (← (IO.FS.realPath path).toBaseIO) matches .ok _

/-- The reply of the machine to a question. -/
def Question.put : (question : Question) → IO question.Reply
  | .read path => tried (IO.FS.readBinFile path)
  | .exists path => leadsSomewhere path
  | .makeDirectories path => tried (IO.FS.createDirAll path)
  | .createFile path => tried (IO.FS.writeBinFile path ByteArray.empty)
  | .writeFile path data => tried (extendFile path data)
  | .syncFile path => tried (extendFile path ByteArray.empty)
  | .appendFile path data => tried (extendFile path data)
  | .rename source target => tried (IO.FS.rename source target)
  | .now => return (← Std.Time.Timestamp.now).toMillisecondsSinceUnixEpoch.val.toNat

/-- Performs an action on the machine. -/
def Action.perform {α : Type} : Action α → IO α
  | .done value => return value
  | .ask question next => do (next (← question.put)).perform

namespace CommandLine

/-- The surroundings of the program on the machine. -/
def Environment.ofMachine : IO Environment := do
  let names := ["HOME", "USERPROFILE", "XDG_CONFIG_HOME"]
  let values ← names.mapM fun name => do return (name, ← IO.getEnv name)
  return {
    lookup := fun name => (values.lookup name).join
    directory := toString (← IO.currentDir) }

end CommandLine

end InstrumentBench

/-- Runs the program on the machine. -/
def main (arguments : List String) : IO UInt32 := do
  let environment ← InstrumentBench.CommandLine.Environment.ofMachine
  let outcome ← (InstrumentBench.CommandLine.run environment arguments).perform
  IO.print outcome.output.standard
  IO.eprint outcome.output.error
  return outcome.exitCode
