import InstrumentBench.Proofs.Session.Audit

/-!
# The log of a day

A session that starts with an empty log and runs within one day leaves the log file of that
day and no other.  The file has one line for each execution that has called the link, in
order, and each line says what was sent and what became of it (`Session.performAll_lines`).
-/

namespace InstrumentBench

/-- Between two worlds the clock shows the times of one day, in words of 64 bits. -/
def World.Within (day : Timestamp.Date) (before after : World) : Prop :=
  ∀ reading, before.readings ≤ reading → reading < after.readings →
    Timestamp.date (before.clock reading) = day ∧ before.clock reading < Nat.pow 2 64

/-- The name of the log file of a day. -/
def CommandLog.fileOf (day : Timestamp.Date) : String :=
  String.ofList day.chars ++ ".jsonl"

theorem LogRecord.fileName_eq {record : LogRecord} {day : Timestamp.Date}
    (same : Timestamp.date record.millis = day) : record.fileName = CommandLog.fileOf day := by
  rw [fileName, Timestamp.dateText, same, CommandLog.fileOf]

theorem CommandLog.Dated.within {before after : World} {records : List LogRecord}
    {day : Timestamp.Date} (dated : Dated before after records)
    (within : before.Within day after) :
    ∀ record ∈ records, record.fileName = fileOf day ∧ record.millis < Nat.pow 2 64 := by
  intro record member
  obtain ⟨reading, started, earlier, stamp⟩ := dated.stamped record member
  obtain ⟨same, small⟩ := within reading started earlier
  rw [← stamp] at same small
  exact ⟨LogRecord.fileName_eq same, small⟩

namespace Dispatch

/-- Whether an execution has called the link. -/
def delivers (dispatch : Dispatch) : Bool :=
  dispatch.operation.execution?.isSome && !dispatch.calls.isEmpty

/-- Whether an execution has called the link, can be told from its answer. -/
theorem delivers_eq {dispatch : Dispatch} (audited : dispatch.Audited)
    (reached : dispatch.Reached) :
    dispatch.delivers = (dispatch.operation.execution?.isSome && dispatch.answer.fromLink) := by
  cases audited with
  | @silent operation answer other =>
    have uncalled : ¬(operation.execution?.isSome ∧ answer.fromLink) := fun ⟨executes, linked⟩ =>
      reached executes linked rfl
    simpa [delivers] using uncalled
  | identity => rfl
  | failed executes reason => simp [delivers, executes, Answer.fromLink]
  | taken executes response => simp [delivers, executes, Answer.fromLink]

/-- A line reports the one call of an execution: with the response of the entry that is the
answer, which a setting has not, or with the error of the link that is the answer. -/
inductive ReportedBy : Dispatch → String → Prop where
  | taken {operation : Operation} {entry : Entry} {records : List LogRecord} {line : String}
      (responds : entry.response = none ↔ entry.direction = .set)
      (reports : CommandLog.Reports line entry.sent (.ok entry.response)) :
      ReportedBy ⟨operation, .entry entry, [entry.sent], records⟩ line
  | failed {operation : Operation} {error : LinkError} {call : Sent} {records : List LogRecord}
      {line : String} (reports : CommandLog.Reports line call (.error error.message)) :
      ReportedBy ⟨operation, .failed (.link error), [call], records⟩ line

/-- Only an execution that calls the link has a record, and its line reports the call. -/
theorem Audited.reported {dispatch : Dispatch} (audited : dispatch.Audited)
    (entered : dispatch.Entered)
    (dated : ∀ record ∈ dispatch.records, record.millis < Nat.pow 2 64) :
    List.Forall₂ ReportedBy ([dispatch].filter delivers)
      (dispatch.records.map (·.encode.compact)) := by
  cases audited with
  | silent other => simp [delivers]
  | identity => simp [delivers, Operation.execution?]
  | @failed operation error record executes reason =>
    have delivered : delivers ⟨operation, .failed (.link error), [record.sent], [record]⟩ := by
      simp [delivers, executes]
    have reports := LogRecord.reports (dated record List.mem_cons_self)
    rw [reason] at reports
    rw [List.filter_cons_of_pos delivered]
    exact .cons (.failed reports) .nil
  | @taken operation entry record executes response =>
    have delivered : delivers ⟨operation, .entry entry, [record.sent], [record]⟩ := by
      simp [delivers, executes]
    obtain ⟨called, responds⟩ := entered entry rfl
    have reports := LogRecord.reports (dated record List.mem_cons_self)
    have sent : record.sent = entry.sent := List.singleton_injective called
    rw [response, sent] at reports
    rw [List.filter_cons_of_pos delivered, sent]
    exact .cons (.taken responds reports) .nil

/-- The lines of the records of a run report the executions that have called the link. -/
theorem reported_flatMap {dispatches : List Dispatch}
    (audited : ∀ dispatch ∈ dispatches, dispatch.Audited)
    (entered : ∀ dispatch ∈ dispatches, dispatch.Entered)
    (dated : ∀ record ∈ dispatches.flatMap records, record.millis < Nat.pow 2 64) :
    List.Forall₂ ReportedBy (dispatches.filter delivers)
      ((dispatches.flatMap records).map (·.encode.compact)) := by
  induction dispatches with
  | nil => exact .nil
  | cons dispatch rest ih =>
    rw [List.flatMap_cons, List.forall_mem_append] at dated
    rw [List.forall_mem_cons] at audited entered
    have first := audited.1.reported entered.1 dated.1
    have later := ih audited.2 entered.2 dated.2
    rw [← List.singleton_append, List.filter_append, List.singleton_append, List.flatMap_cons,
      List.map_append]
    exact List.rel_append first later

end Dispatch

namespace CommandLog

/-- A log that was empty and has gained records of one day, has their lines in the file of
that day and nothing in any other file. -/
theorem Gained.bytesAt {place : Place} {before after : World} {records : List LogRecord}
    {day : Timestamp.Date} (gained : Gained place before after records)
    (empty : ∀ name, before.disk.node? (place ++ [name]) = none)
    (dated : ∀ record ∈ records, record.fileName = fileOf day) (name : String) :
    after.disk.bytesAt (place ++ [name]) =
      if name = fileOf day then
        (records.map (·.encode.compact)).flatMap fun line => (line ++ "\n").toUTF8.data.toList
      else [] := by
  have blank : before.disk.bytesAt (place ++ [name]) = [] := by
    rw [Disk.bytesAt, empty]
  rw [gained.files, blank, List.nil_append]
  split
  next same =>
    have all : records.filter (·.fileName = name) = records :=
      List.filter_eq_self.2 fun record member => by simp [dated record member, same]
    rw [all, List.flatMap_map]
    rfl
  next other =>
    have none : records.filter (·.fileName = name) = [] :=
      List.filter_eq_nil_iff.2 fun record member => by
        simpa [dated record member] using Ne.symm other
    rw [none, List.flatMap_nil]

end CommandLog

namespace Session

variable {channel : Type} [Scripted channel]

/-- A run within one day over a log that is empty and can be written leaves in the log file
of the day one line for each execution that has called the link, in order, and nothing in
any other file.  Each line has no line breaks and says what was sent, and the response of
the history entry or the error of the link.  Each call is the call of one operation, and the
executions that have called the link are those whose answer is an entry or an error of the
link. -/
theorem performAll_lines (session : Session channel) (operations : List Operation)
    (world : World) (directory : String) (place : Place) (day : Timestamp.Date)
    (logging : session.auditDirectory = some directory)
    (writable : CommandLog.Writable directory place world)
    (empty : ∀ name, world.disk.node? (place ++ [name]) = none)
    (within : world.Within day ((session.performAll operations).run world).2) :
    ∃ answers final after, ∃ dispatches : List Dispatch, ∃ lines : List String,
      (session.performAll operations).run world = ((answers, final), after) ∧
      ((session.watched []).performAll operations).run world =
        ((answers, final.watched (dispatches.flatMap Dispatch.calls)), after) ∧
      dispatches.map Dispatch.operation = operations ∧
      dispatches.map Dispatch.answer = answers ∧
      (∀ dispatch ∈ dispatches, dispatch.Audited ∧ dispatch.Entered ∧
        dispatch.delivers = (dispatch.operation.execution?.isSome && dispatch.answer.fromLink)) ∧
      final.recorder.entries = session.recorder.entries ++ answers.filterMap Answer.recorded? ∧
      List.Forall₂ Dispatch.ReportedBy (dispatches.filter Dispatch.delivers) lines ∧
      after.disk.bytesAt (place ++ [CommandLog.fileOf day]) =
        (lines.flatMap fun line => (line ++ "\n").toUTF8.data.toList) ∧
      ∀ name, name ≠ CommandLog.fileOf day → after.disk.bytesAt (place ++ [name]) = [] := by
  obtain ⟨answers, final, after, dispatches, run⟩ :=
    performAll_accounts logging writable operations
  rw [run.ran] at within
  have dated := run.dated.within within
  have named := fun record member => (dated record member).1
  have accounted := fun dispatch member => And.intro (run.audited dispatch member)
    (And.intro (run.entered dispatch member)
      (Dispatch.delivers_eq (run.audited dispatch member) (run.reached dispatch member)))
  refine ⟨answers, final, after, dispatches, _, run.ran, run.watched [], run.performed,
    run.answered, accounted, run.recorder,
    Dispatch.reported_flatMap run.audited run.entered fun record member => (dated record member).2,
    ?_, fun name other => ?_⟩
  case refine_1 => rw [run.gained.bytesAt empty named, if_pos rfl]
  case refine_2 => rw [run.gained.bytesAt empty named, if_neg other]

/-- A setting, a query with quotes and a line break, and a setting that does not arrive make
three lines.  The query for the identity, and a command for an instrument that is not known,
make none. -/
theorem performAll_lines_mixed :
    let operations : List Operation := [.identify "R", .sendTyped "R" "VOLT 5",
      .sendTyped "R" "SAY \"\n\"?", .refuse "R", .sendTyped "R" "*RST", .sendTyped "S" "*RST"]
    let place : Place := ["cfg", "command-logs"]
    let day : Timestamp.Date := ⟨1970, 1, 1⟩
    let run := (logged.performAll operations).run .bare
    logged.auditDirectory = some "cfg" ∧ CommandLog.Writable "cfg" place .bare ∧
      (∀ name, World.bare.disk.node? (place ++ [name]) = none) ∧ World.bare.Within day run.2 ∧
      run.2.disk.linesBelow place = 3 ∧
      run.2.disk.read "cfg/command-logs/1970-01-01.jsonl" = .ok
        ("\x7b\"ts_ms\":0,\"resource\":\"R\",\"direction\":\"SET\"," ++
          "\"command\":\"VOLT 5\",\"ok\":true\x7d\n" ++
        "\x7b\"ts_ms\":0,\"resource\":\"R\",\"direction\":\"GET\"," ++
          "\"command\":\"SAY \\\"\\n\\\"?\",\"ok\":true,\"response\":\"ACME PSU-1 SN42\"\x7d\n" ++
        "\x7b\"ts_ms\":0,\"resource\":\"R\",\"direction\":\"SET\"," ++
          "\"command\":\"*RST\",\"ok\":false,\"error\":\"cannot open 'R'\"\x7d\n").toUTF8 ∧
      ∃ dispatches : List Dispatch, ∃ lines : List String,
        dispatches.map Dispatch.answer = run.1.1 ∧
        (∀ dispatch ∈ dispatches, dispatch.Audited ∧ dispatch.Entered) ∧
        List.Forall₂ Dispatch.ReportedBy (dispatches.filter Dispatch.delivers) lines ∧
        run.2.disk.bytesAt (place ++ ["1970-01-01.jsonl"]) =
          lines.flatMap fun line => (line ++ "\n").toUTF8.data.toList := by
  intro operations place day run
  have empty : ∀ name, World.bare.disk.node? (place ++ [name]) = none := fun name => rfl
  have within : World.bare.Within day run.2 := fun reading _ _ => by
    change Timestamp.date 0 = day ∧ 0 < Nat.pow 2 64
    decide
  obtain ⟨answers, final, after, dispatches, lines, ran, -, -, answered, accounted, -, reported,
    bytes, -⟩ :=
    performAll_lines logged operations .bare "cfg" place day rfl CommandLog.writable_bare empty
      within
  have file : CommandLog.fileOf day = "1970-01-01.jsonl" := by decide
  refine ⟨rfl, CommandLog.writable_bare, empty, within, by decide +kernel,
    by decide +kernel, dispatches, lines, ?_,
    fun dispatch member => ⟨(accounted dispatch member).1, (accounted dispatch member).2.1⟩,
    reported, ?_⟩
  case refine_1 => rw [answered, show run = _ from ran]
  case refine_2 => rw [show run = _ from ran, ← file]; exact bytes

end Session

end InstrumentBench
