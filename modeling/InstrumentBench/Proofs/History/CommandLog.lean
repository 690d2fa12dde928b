import InstrumentBench.History.CommandLog
import InstrumentBench.Proofs.Storage.Disk

/-!
# What logging leaves alone

Logging a command reads the clock once and touches the log file of that day and no
other file, whether or not it succeeds.
-/

namespace InstrumentBench

/-- Adding to a file, whether or not it succeeds, leaves the clock alone. -/
theorem World.clock_appendFile (world : World) (path : String) (data : ByteArray) :
    (world.answer (.appendFile path data)).2.clock = world.clock := by
  simp only [World.answer, World.change]
  split <;> rfl

/-- Adding to a file, whether or not it succeeds, leaves every other place alone. -/
theorem World.node?_appendFile (world : World) {path : String} (data : ByteArray)
    {place : Place} (elsewhere : world.disk.locate path ≠ .ok place) :
    (world.answer (.appendFile path data)).2.disk.node? place = world.disk.node? place := by
  simp only [World.answer, World.change]
  split
  next disk added => exact Disk.node?_of_appendFile added elsewhere
  next => rfl

namespace CommandLog

/-- Between two worlds nothing has changed that adding to a dated file may not
change: only the file of the date that the clock shows, and the directories that
lead to it. -/
structure ConfinedTo (directory : String) (file : Nat → String) (before after : World) :
    Prop where
  clock : after.clock = before.clock
  elsewhere : ∀ place,
    (before.disk.makeDirectories directory).2.locate (file (before.clock before.readings)) ≠
        .ok place →
      before.disk.GrowsAt after.disk place

/-- Between two worlds nothing has changed that logging below a directory may not
change. -/
def Confined (directory : String) (before after : World) : Prop :=
  ConfinedTo (Configuration.logDirectory directory) (file directory) before after

/-- Adding to a dated file is confined to that file.  The file and the addition are
left open here, so that no proof unfolds a date. -/
theorem confinedTo_run (directory : String) (file : Nat → String) (data : Nat → ByteArray)
    (world : World) :
    ConfinedTo directory file world
      ((do
        let millis ← Action.reply .now
        let _ ← Action.reply (.makeDirectories directory)
        let _ ← Action.reply (.appendFile (file millis) (data millis)) : Action Unit).run
          world).2 := by
  have grown := Disk.grows_makeDirectories world.disk directory
  constructor
  case clock => exact World.clock_appendFile _ _ _
  case elsewhere =>
    intro place elsewhere
    exact (grown place).trans (.inl (World.node?_appendFile _ _ elsewhere))

/-- Logging a command is confined to the log file. -/
theorem confined_add (directory resource : String) (direction : Direction) (command : String)
    (outcome : Except String (Option String)) (world : World) :
    Confined directory world ((add directory resource direction command outcome).run world).2 :=
  confinedTo_run _ (file directory)
    (fun millis => (LogRecord.line ⟨millis, resource, direction, command, outcome⟩).toUTF8) world

/-- Reading the clock once more goes unnoticed. -/
theorem Confined.read {directory : String} {before after : World}
    (confined : Confined directory before after) :
    Confined directory before (after.answer .now).2 :=
  ⟨confined.clock, confined.elsewhere⟩

end CommandLog

end InstrumentBench
