import InstrumentBench.Proofs.History.CommandLog
import InstrumentBench.Proofs.History.Timestamp
import InstrumentBench.Proofs.Json.Printer
import InstrumentBench.Proofs.Storage.Change
import InstrumentBench.Proofs.Storage.Lines

/-!
# What logging adds

Logging a command where the log can be written adds one line to the file of the day and
nothing to any other file (`CommandLog.gained_add`), and leaves a log that can be written.
-/

namespace InstrumentBench

/-! ## Making directories that are there -/

namespace Disk

theorem makeDirectory_of_directory {disk : Disk} {path : String} {place : Place}
    (located : disk.locate path = .ok place) (stands : disk.node? place = some .directory) :
    disk.makeDirectory path = .error .alreadyExists := by
  simp [makeDirectory, located, stands, bind, Except.bind]

/-- Making a directory that is there changes nothing. -/
theorem makeDirectories_of_directory {disk : Disk} {path : String} {place : Place}
    (located : disk.locate path = .ok place) (stands : disk.node? place = some .directory) :
    disk.makeDirectories path = (.ok (), disk) := by
  have found : disk.isDirectory path = true := by
    simp [isDirectory, find, located, stands, bind, Except.bind]
  have ensured : disk.ensureDirectory path = (.ok (), disk) := by
    rw [ensureDirectory, makeDirectory_of_directory located stands, found]
    rfl
  rw [makeDirectories, if_neg (ne_empty_of_locate located), makeBelow, ensured]

/-! ## Bytes -/

theorem Grows.bytesAt {before after : Disk} (grows : before.Grows after) (place : Place) :
    after.bytesAt place = before.bytesAt place := by
  rw [Disk.bytesAt, Disk.bytesAt]
  rcases grows place with same | ⟨absent, made⟩
  · rw [same]
  · rw [absent, made]

theorem bytesAt_of_openFile {disk : Disk} {path : String} {place : Place} {contents : ByteArray}
    (opened : disk.openFile path = .ok (place, contents)) :
    disk.bytesAt place = contents.data.toList := by
  obtain ⟨-, -, stands | ⟨absent, rfl⟩⟩ := openFile_eq_ok.1 opened
  · rw [bytesAt, stands]
  · rw [bytesAt, absent]
    rfl

theorem bytesAt_put {disk : Disk} {place : Place} (free : disk.node? place ≠ some .directory)
    (contents : ByteArray) (other : Place) :
    (disk.put place (.file contents)).bytesAt other =
      if other = place then contents.data.toList else disk.bytesAt other := by
  rw [bytesAt, bytesAt, node?_put]
  by_cases here : other = place
  · rw [if_pos here, if_pos here, here, if_neg (ne_nil_of_free free)]
  · rw [if_neg here, if_neg here]
    by_cases root : other = []
    · simp [root, node?]
    · rw [if_neg root]

end Disk

/-! ## Records -/

/-- The ending of a log file makes a name of everything without slashes. -/
theorem Path.isPiece_logFile {name : List Char} (whole : '/' ∉ name) :
    IsPiece (String.ofList name ++ ".jsonl") :=
  ⟨by simp, by simp [whole]⟩

theorem Path.logFile_ne {text : String} (name : List Char) (short : text.length < 6) :
    String.ofList name ++ ".jsonl" ≠ text := by
  rintro rfl
  have ending : ".jsonl".length = 6 := by decide
  rw [String.length_append] at short
  omega

namespace LogRecord

/-- The name of the file that a record belongs to. -/
def fileName (record : LogRecord) : String :=
  Timestamp.dateText record.millis ++ ".jsonl"

/-- The line of a record as it is written. -/
def bytes (record : LogRecord) : List UInt8 :=
  record.line.toUTF8.data.toList

/-- A record is one line. -/
theorem count_lineEnd_bytes (record : LogRecord) : record.bytes.count lineEnd = 1 := by
  have inside : record.encode.compactChars.count '\n' = 0 :=
    List.count_eq_zero.2 ((Json.Value.printable_compactChars _).not_mem (by decide))
  rw [bytes, count_lineEnd_toUTF8, line, String.toList_append, Json.Value.compact,
    String.toList_ofList, List.count_append, inside]
  rfl

end LogRecord

namespace CommandLog

/-! ## Logging -/

theorem pieces_logDirectory (directory : String) :
    Path.pieces (Configuration.logDirectory directory) ≠ [] := by
  have isPiece : Path.IsPiece "command-logs" := ⟨by decide, by decide⟩
  simp [Configuration.logDirectory, isPiece.pieces_join]

theorem isPiece_dateText (millis : Nat) : Path.IsPiece (Timestamp.dateText millis ++ ".jsonl") :=
  Path.isPiece_logFile (Timestamp.not_mem_date (by decide) (by decide) _)

/-- The log below a configuration directory can be written: its directory can be made and
is at a place, and the file of every day that the clock is going to show can be opened. -/
structure Writable (directory : String) (place : Place) (world : World) : Prop where
  located : (world.disk.makeDirectories (Configuration.logDirectory directory)).2.locate
    (Configuration.logDirectory directory) = .ok place
  opens : ∀ reading, world.readings ≤ reading → ∃ opened,
    (world.disk.makeDirectories (Configuration.logDirectory directory)).2.openFile
      (file directory (world.clock reading)) = .ok opened

/-- Between two worlds records were added to the log whose directory is at a place: the
file of every name ends in the lines of its records, and the directory has as many lines
more as there are records. -/
structure Gained (place : Place) (before after : World) (records : List LogRecord) : Prop where
  files : ∀ name, after.disk.bytesAt (place ++ [name]) =
    before.disk.bytesAt (place ++ [name]) ++
      (records.filter (·.fileName = name)).flatMap LogRecord.bytes
  lines : after.disk.linesBelow place = before.disk.linesBelow place + records.length

theorem Gained.of_disk {place : Place} {before after : World}
    (same : after.disk = before.disk) : Gained place before after [] :=
  ⟨fun name => by simp [same], by simp [same]⟩

theorem Gained.trans {place : Place} {first second third : World}
    {records later : List LogRecord} (left : Gained place first second records)
    (right : Gained place second third later) : Gained place first third (records ++ later) :=
  ⟨fun name => by
      rw [right.files, left.files, List.filter_append, List.flatMap_append, List.append_assoc],
    by rw [right.lines, left.lines, List.length_append, Nat.add_assoc]⟩

section

variable {world : World} {directory : String} {place target : Place} {contents : ByteArray}

/-- Adding to a file of a directory that has been made. -/
theorem run_dated {logs : String} {file : Nat → String} (data : Nat → ByteArray)
    (opened : (world.disk.makeDirectories logs).2.openFile
      (file (world.clock world.readings)) = .ok (target, contents)) :
    (do
      let millis ← Action.reply .now
      let _ ← Action.reply (.makeDirectories logs)
      let _ ← Action.reply (.appendFile (file millis) (data millis)) : Action Unit).run world =
      ((), { world with
        disk := (world.disk.makeDirectories logs).2.put target
          (.file (contents ++ data (world.clock world.readings)))
        readings := world.readings + 1 }) := by
  have added : (world.disk.makeDirectories logs).2.appendFile
      (file (world.clock world.readings)) (data (world.clock world.readings)) =
        .ok ((world.disk.makeDirectories logs).2.put target
          (.file (contents ++ data (world.clock world.readings)))) :=
    Outcome.bind_eq_ok.2 ⟨_, opened, rfl⟩
  change ((), (World.change
    { world with
      disk := (world.disk.makeDirectories logs).2
      readings := world.readings + 1 }
    ((world.disk.makeDirectories logs).2.appendFile (file (world.clock world.readings))
      (data (world.clock world.readings)))).2) = _
  rw [added]
  rfl

/-- The log file that is opened stands in the log directory. -/
theorem Writable.target_eq (writable : Writable directory place world) {reading : Nat}
    (opened : (world.disk.makeDirectories (Configuration.logDirectory directory)).2.openFile
      (file directory (world.clock reading)) = .ok (target, contents)) :
    (world.disk.makeDirectories (Configuration.logDirectory directory)).2.node? place =
        some .directory ∧
      target = place ++ [Timestamp.dateText (world.clock reading) ++ ".jsonl"] := by
  obtain ⟨stands, entry⟩ := Disk.locate_join (isPiece_dateText _) (pieces_logDirectory directory)
    writable.located (Disk.locate_of_openFile opened)
  exact ⟨stands, Disk.below_of_name (Path.logFile_ne _ (by decide)) (Path.logFile_ne _ (by decide))
    entry⟩

/-- A log file that has grown can still be written, and so can all others. -/
theorem Writable.put (writable : Writable directory place world)
    (opened : (world.disk.makeDirectories (Configuration.logDirectory directory)).2.openFile
      (file directory (world.clock world.readings)) = .ok (target, contents))
    (longer : ByteArray) :
    Writable directory place { world with
      disk := (world.disk.makeDirectories (Configuration.logDirectory directory)).2.put target
        (.file longer)
      readings := world.readings + 1 } := by
  obtain ⟨stands, -⟩ := writable.target_eq opened
  have same := Disk.sameDirectories_put (Disk.free_of_openFile opened) longer
  have located := same.locate.2 writable.located
  have unchanged := Disk.makeDirectories_of_directory located ((same.standing place).2 stands)
  constructor
  case located =>
    dsimp only
    rw [unchanged]
    exact located
  case opens =>
    intro reading later
    dsimp only at later ⊢
    rw [unchanged]
    obtain ⟨earlier, openedBefore⟩ := writable.opens reading (by omega)
    exact same.openFile openedBefore

/-- A file of the log directory that has grown by a record is a log that has gained it. -/
theorem gained_of_bytesAt {after : World} (record : LogRecord)
    (there : target = place ++ [record.fileName])
    (bytes : ∀ other, after.disk.bytesAt other =
      world.disk.bytesAt other ++ if other = target then record.bytes else []) :
    Gained place world after [record] := by
  constructor
  case files =>
    intro name
    have same : place ++ [name] = target ↔ record.fileName = name := by simp [there, eq_comm]
    rw [bytes, List.filter_singleton]
    simp only [same, Bool.cond_decide]
    split <;> simp
  case lines =>
    have longer := Disk.linesBelow_of_bytesAt bytes
    rw [there, List.dropLast_concat, record.count_lineEnd_bytes] at longer
    exact longer

/-- Where the log can be written, logging a command reads the clock once and adds its record,
and the log can still be written. -/
theorem gained_add (writable : Writable directory place world) (resource : String)
    (direction : Direction) (command : String) (outcome : Except String (Option String)) :
    ∃ after, (add directory resource direction command outcome).run world = ((), after) ∧
      Writable directory place after ∧
      Gained place world after
        [⟨world.clock world.readings, resource, direction, command, outcome⟩] ∧
      after.clock = world.clock ∧ after.readings = world.readings + 1 := by
  obtain ⟨⟨target, contents⟩, opened⟩ := writable.opens world.readings le_rfl
  obtain ⟨stands, there⟩ := writable.target_eq opened
  refine ⟨_, run_dated (fun millis =>
    (LogRecord.line ⟨millis, resource, direction, command, outcome⟩).toUTF8) opened, ?_, ?_, rfl,
    rfl⟩
  case refine_1 => exact writable.put opened _
  case refine_2 =>
    refine gained_of_bytesAt ⟨_, resource, direction, command, outcome⟩ there fun other => ?_
    rw [Disk.bytesAt_put (Disk.free_of_openFile opened),
      ← (Disk.grows_makeDirectories world.disk _).bytesAt]
    split
    next here =>
      rw [here, Disk.bytesAt_of_openFile opened]
      exact ByteArray.toList_data_append
    next => rw [List.append_nil]

end

end CommandLog

end InstrumentBench
