import InstrumentBench.Proofs.History.LogFile
import InstrumentBench.Proofs.History.LogRecord
import InstrumentBench.Proofs.Session.History

/-!
# The command log of a run

A session whose log can be written logs one line for each command that it hands to its
link, answered or not.  The query for an identity is the exception: it is handed to the
link and not logged.

`perform_audited` accounts for one operation, `performAll_accounts` for all operations of a
run, and `performAll_audited` counts the lines.
-/

namespace InstrumentBench

/-- Whether an operation asks for an identity. -/
def Operation.identifies : Operation → Bool
  | .identify _ => true
  | _ => false

theorem Operation.identifies_eq_false {operation : Operation}
    (executes : operation.execution?.isSome) : operation.identifies = false := by
  cases operation <;> first | rfl | cases executes

/-- One operation of a run: its answer, the calls made to the link, and the records
added to the log. -/
structure Dispatch where
  operation : Operation
  answer : Answer
  calls : List Sent
  records : List LogRecord

/-- What one operation may hand to the link and to the log. -/
inductive Dispatch.Audited : Dispatch → Prop where
  /-- Nothing. -/
  | silent {operation : Operation} {answer : Answer}
      (other : operation.identifies = false) : Audited ⟨operation, answer, [], []⟩
  /-- A query for an identity, and nothing to the log. -/
  | identity {resource : String} {answer : Answer} :
      Audited ⟨.identify resource, answer, [⟨resource, .get, identityQuery⟩], []⟩
  /-- A command that does not reach its instrument, with the reason. -/
  | failed {operation : Operation} {error : LinkError} {record : LogRecord}
      (executes : operation.execution?.isSome) (reason : record.outcome = .error error.message) :
      Audited ⟨operation, .failed (.link error), [record.sent], [record]⟩
  /-- A command that its instrument takes, with the response. -/
  | taken {operation : Operation} {entry : Entry} {record : LogRecord}
      (executes : operation.execution?.isSome) (response : record.outcome = .ok entry.response) :
      Audited ⟨operation, .entry entry, [record.sent], [record]⟩

/-- The entry that is the answer, if there is one, says what the one call was, and has a
response unless that is a setting. -/
def Dispatch.Entered (dispatch : Dispatch) : Prop :=
  ∀ entry ∈ dispatch.answer.recorded?,
    dispatch.calls = [entry.sent] ∧ (entry.response = none ↔ entry.direction = .set)

theorem Dispatch.Entered.of_unrecorded {dispatch : Dispatch}
    (unrecorded : dispatch.answer.recorded? = none) : dispatch.Entered := by
  rw [Entered, unrecorded]
  nofun

theorem Dispatch.Entered.of_answers {channel : Type} [Transport channel] {before after : channel}
    {call : Sent} {entry : Entry} (answers : Execution.Answers before after call entry)
    {operation : Operation} {records : List LogRecord} :
    Entered ⟨operation, .entry entry, [call], records⟩ := by
  rintro _ ⟨⟩
  refine ⟨by rw [answers.sent_eq], ?_⟩
  have response := answers.response
  rw [answers.direction]
  rcases call with ⟨resource, _ | _, text⟩
  case get =>
    obtain ⟨_, given, -, present, -⟩ := response
    simp [present]
  case set => simp [response.2]

/-- Whether an answer tells that the link was called: it took a command, or it failed. -/
def Answer.fromLink : Answer → Bool
  | .entry _ | .failed (.link _) => true
  | _ => false

theorem Answer.fromLink_failed {error : SessionError} (other : ∀ reason, error ≠ .link reason) :
    (failed error).fromLink = false := by
  cases error with
  | link reason => exact absurd rfl (other reason)
  | _ => rfl

/-- An execution whose answer comes from the link has called it. -/
def Dispatch.Reached (dispatch : Dispatch) : Prop :=
  dispatch.operation.execution?.isSome → dispatch.answer.fromLink → dispatch.calls ≠ []

/-- Every call but the query for an identity has its record. -/
theorem Dispatch.Audited.length_calls {dispatch : Dispatch} (audited : dispatch.Audited) :
    dispatch.calls.length =
      dispatch.records.length + if dispatch.operation.identifies then 1 else 0 := by
  cases audited with
  | silent other => simp [other]
  | identity => rfl
  | failed executes reason => simp [Operation.identifies_eq_false executes]
  | taken executes response => simp [Operation.identifies_eq_false executes]

theorem Dispatch.length_flatMap_calls {dispatches : List Dispatch}
    (audited : ∀ dispatch ∈ dispatches, dispatch.Audited) :
    (dispatches.flatMap calls).length = (dispatches.flatMap records).length +
      (dispatches.map operation).countP Operation.identifies := by
  induction dispatches with
  | nil => rfl
  | cons dispatch rest ih =>
    have head := (audited dispatch List.mem_cons_self).length_calls
    have tail := ih fun other member => audited other (List.mem_cons_of_mem dispatch member)
    rw [List.flatMap_cons, List.flatMap_cons, List.map_cons, List.countP_cons, List.length_append,
      List.length_append]
    omega

namespace CommandLog

theorem Writable.read {directory : String} {place : Place} {world : World}
    (writable : Writable directory place world) :
    Writable directory place (world.answer .now).2 :=
  ⟨writable.located, fun reading later => writable.opens reading (Nat.le_of_succ_le later)⟩

theorem Gained.read {place : Place} {before after : World} {records : List LogRecord}
    (gained : Gained place before after records) :
    Gained place before (after.answer .now).2 records :=
  ⟨gained.files, gained.lines⟩

/-- Between two worlds the clock may have been read, and the records are dated by what it
has shown meanwhile. -/
structure Dated (before after : World) (records : List LogRecord) : Prop where
  clock : after.clock = before.clock
  readings : before.readings ≤ after.readings
  stamped : ∀ record ∈ records, ∃ reading, before.readings ≤ reading ∧
    reading < after.readings ∧ record.millis = before.clock reading

theorem Dated.refl (world : World) : Dated world world [] :=
  ⟨rfl, le_rfl, List.forall_mem_nil _⟩

theorem Dated.trans {first second third : World} {records later : List LogRecord}
    (left : Dated first second records) (right : Dated second third later) :
    Dated first third (records ++ later) where
  clock := right.clock.trans left.clock
  readings := left.readings.trans right.readings
  stamped := by
    refine List.forall_mem_append.2 ⟨fun record member => ?_, fun record member => ?_⟩
    case refine_1 =>
      obtain ⟨reading, started, before, stamp⟩ := left.stamped record member
      exact ⟨reading, started, Nat.lt_of_lt_of_le before right.readings, stamp⟩
    case refine_2 =>
      obtain ⟨reading, started, before, stamp⟩ := right.stamped record member
      exact ⟨reading, left.readings.trans started, before, by rw [stamp, left.clock]⟩

theorem Dated.read {before after : World} {records : List LogRecord}
    (dated : Dated before after records) : Dated before (after.answer .now).2 records where
  clock := dated.clock
  readings := Nat.le_succ_of_le dated.readings
  stamped record member := by
    obtain ⟨reading, started, earlier, stamp⟩ := dated.stamped record member
    exact ⟨reading, started, Nat.lt_succ_of_lt earlier, stamp⟩

/-- What a session logs where the log can be written, is one record. -/
theorem Logs.gained {directory : String} {place : Place} {before after : World} {call : Sent}
    {outcome : Except String (Option String)}
    (logs : Logs (some directory) call outcome before after)
    (writable : Writable directory place before) :
    ∃ record : LogRecord, record.sent = call ∧ record.outcome = outcome ∧
      Writable directory place after ∧ Gained place before after [record] ∧
      Dated before after [record] := by
  obtain ⟨logged, ran, which⟩ := logs directory rfl
  obtain ⟨final, added, writableAfter, gained, clock, readings⟩ :=
    gained_add writable call.resource call.direction call.text outcome
  rw [added] at ran
  obtain rfl : final = logged := ran
  have dated : Dated before final [⟨before.clock before.readings, call.resource, call.direction,
      call.text, outcome⟩] :=
    ⟨clock, by omega, List.forall_mem_singleton.2 ⟨before.readings, le_rfl, by omega, rfl⟩⟩
  refine ⟨⟨before.clock before.readings, call.resource, call.direction, call.text, outcome⟩,
    rfl, rfl, ?_⟩
  rcases which with rfl | rfl
  · exact ⟨writableAfter, gained, dated⟩
  · exact ⟨writableAfter.read, gained.read, dated.read⟩

end CommandLog

namespace Session

variable {channel : Type}

@[simp] theorem catalog_watched (session : Session channel) (calls : List Sent) (name : String) :
    (session.watched calls).catalog name =
      ((session.catalog name).1, (session.catalog name).2.watched calls) := by
  rw [catalog, catalog, instrument_watched]
  cases session.instrument name with
  | error error => rfl
  | ok instrument =>
    dsimp only
    rw [catalogOf, catalogOf, table_watched]
    rcases session.table instrument.identity.model with ⟨_ | _ | table, later⟩ <;> rfl

@[simp] theorem setNickname_watched (session : Session channel) (calls : List Sent)
    (nickname : String) (identity : Identity) :
    (session.watched calls).setNickname nickname identity =
      ((session.setNickname nickname identity).1,
        (session.setNickname nickname identity).2.watched calls) := by
  have same : (session.watched calls).registry = session.registry := rfl
  rw [setNickname, setNickname, same]
  cases session.registry.setNickname? nickname identity <;> rfl

theorem setNickname_snd (session : Session channel) (nickname : String) (identity : Identity) :
    ∃ registry, (session.setNickname nickname identity).2 =
      { session with registry := registry } := by
  rw [setNickname]
  cases session.registry.setNickname? nickname identity with
  | none => exact ⟨session.registry, rfl⟩
  | some registry => exact ⟨registry, rfl⟩

theorem catalog_snd (session : Session channel) (name : String) :
    ∃ cache, (session.catalog name).2 = { session with cache := cache } := by
  rw [catalog]
  cases session.instrument name with
  | error => exact ⟨session.cache, rfl⟩
  | ok instrument =>
    dsimp only
    rw [catalogOf_snd, table_snd]
    exact ⟨_, rfl⟩

theorem identify_snd [Transport channel] (session : Session channel) (resource : String) :
    ∃ registry link, (session.identify resource).2 =
      { session with registry := registry, link := link } := by
  rw [identify]
  exact ⟨_, _, rfl⟩

/-- Asking for an identity is one call. -/
theorem identify_watched [Transport channel] (session : Session channel) (calls : List Sent)
    (resource : String) :
    (session.watched calls).identify resource =
      ((session.identify resource).1,
        (session.identify resource).2.watched (calls ++ [⟨resource, .get, identityQuery⟩])) := by
  have asked : Transport.query (session.watched calls).link resource identityQuery =
      ((Transport.query session.link resource identityQuery).1,
        ⟨(Transport.query session.link resource identityQuery).2,
          calls ++ [⟨resource, .get, identityQuery⟩]⟩) := rfl
  rw [identify, identify, Registry.identify, Registry.identify, asked]
  rcases Transport.query session.link resource identityQuery with ⟨_ | response, link⟩
  case error => rfl
  case ok =>
    dsimp only
    cases Identity.read? response <;> rfl

variable [Scripted channel]

/-- An operation leads from a session and a world to others.  The log of the session below
a directory could be written, has gained the records, and can still be written. -/
structure Step (directory : String) (place : Place) (session : Session channel) (world : World)
    (next : Session channel) (after : World) (dispatch : Dispatch) : Prop where
  ran : (session.perform dispatch.operation).run world = ((dispatch.answer, next), after)
  watched : ∀ earlier, ((session.watched earlier).perform dispatch.operation).run world =
    ((dispatch.answer, next.watched (earlier ++ dispatch.calls)), after)
  logging : next.auditDirectory = some directory
  writable : CommandLog.Writable directory place after
  gained : CommandLog.Gained place world after dispatch.records
  audited : dispatch.Audited

/-- A step whose records are dated by the clock.  The entry that is the answer, if there is
one, was recorded and says what was sent; it has a response unless that is a setting. -/
structure DatedStep (directory : String) (place : Place) (session : Session channel)
    (world : World) (next : Session channel) (after : World) (dispatch : Dispatch) : Prop
    extends Step directory place session world next after dispatch where
  dated : CommandLog.Dated world after dispatch.records
  recorder : next.recorder.entries =
    session.recorder.entries ++ dispatch.answer.recorded?.toList
  entered : dispatch.Entered
  reached : dispatch.Reached

variable {session : Session channel} {world : World} {directory : String} {place : Place}

/-- An operation may leave the world, the link and the record alone. -/
theorem step_silent {operation : Operation} (answer : Answer) (next : Session channel)
    (logging : session.auditDirectory = some directory)
    (writable : CommandLog.Writable directory place world)
    (performs : session.perform operation = pure (answer, next))
    (watched : ∀ earlier, (session.watched earlier).perform operation =
      pure (answer, next.watched earlier))
    (same : next.auditDirectory = session.auditDirectory)
    (recorder : next.recorder = session.recorder)
    (other : operation.identifies = false) (unrecorded : answer.recorded? = none)
    (idle : operation.execution? = none) :
    session.DatedStep directory place world next world ⟨operation, answer, [], []⟩ where
  ran := by rw [performs, Action.run_pure]
  watched earlier := by rw [watched, List.append_nil, Action.run_pure]
  logging := same.trans logging
  writable := writable
  gained := .of_disk rfl
  audited := .silent other
  dated := .refl world
  recorder := by rw [recorder, unrecorded, Option.toList_none, List.append_nil]
  entered := .of_unrecorded unrecorded
  reached executes := by
    rw [idle] at executes
    cases executes

/-- An execution is logged if it makes a call. -/
theorem step_execution {operation : Operation} {execution : Execution}
    (executes : operation.execution? = some execution)
    (logging : session.auditDirectory = some directory)
    (writable : CommandLog.Writable directory place world) :
    ∃ next after dispatch, dispatch.operation = operation ∧
      session.DatedStep directory place world next after dispatch := by
  have executed : operation.execution?.isSome := by rw [executes]; rfl
  have other : operation.identifies = false := Operation.identifies_eq_false executed
  obtain ⟨calls, outcome, next, after, ran, watched, effect⟩ := execution.run_cases session world
  have performed : (session.perform operation).run world = ((.of .entry outcome, next), after) := by
    rw [run_perform_execution executes, ran]
  have performedWatched : ∀ earlier, ((session.watched earlier).perform operation).run world =
      ((.of .entry outcome, next.watched (earlier ++ calls)), after) := by
    intro earlier
    rw [run_perform_execution executes, watched]
  cases effect with
  | unprepared unlinked frames link recorder =>
    have kept : next.recorder.entries = session.recorder.entries ++ [] := by
      rw [recorder, List.append_nil]
    exact ⟨next, world, ⟨operation, _, [], []⟩, rfl,
      ⟨performed, performedWatched, frames.auditDirectory.trans logging, writable, .of_disk rfl,
        .silent other⟩,
      .refl world, kept, .of_unrecorded rfl,
      fun _ linked => absurd ((Answer.fromLink_failed unlinked).symm.trans linked) nofun⟩
  | failed calls frames sent recorder confined logged =>
    rw [logging] at logged
    obtain ⟨record, rfl, reason, writable, gained, dated⟩ := logged.gained writable
    have kept : next.recorder.entries = session.recorder.entries ++ [] := by
      rw [recorder, List.append_nil]
    exact ⟨next, after, ⟨operation, _, [record.sent], [record]⟩, rfl,
      ⟨performed, performedWatched, frames.auditDirectory.trans logging, writable, gained,
        .failed executed reason⟩,
      dated, kept, .of_unrecorded rfl, fun _ _ => List.cons_ne_nil _ _⟩
  | taken calls frames answers recorder confined logged =>
    rw [logging] at logged
    obtain ⟨record, rfl, response, writable, gained, dated⟩ := logged.gained writable
    exact ⟨next, after, ⟨operation, _, [record.sent], [record]⟩, rfl,
      ⟨performed, performedWatched, frames.auditDirectory.trans logging, writable, gained,
        .taken executed response⟩,
      dated, recorder, .of_answers answers, fun _ _ => List.cons_ne_nil _ _⟩

/-- One operation is accounted for. -/
theorem perform_audited (logging : session.auditDirectory = some directory)
    (writable : CommandLog.Writable directory place world) (operation : Operation) :
    ∃ next after dispatch, dispatch.operation = operation ∧
      session.DatedStep directory place world next after dispatch := by
  cases operation with
  | execute => exact step_execution rfl logging writable
  | request => exact step_execution rfl logging writable
  | sendTyped => exact step_execution rfl logging writable
  | identify resource =>
    obtain ⟨registry, link, left⟩ := session.identify_snd resource
    have unrecorded : (Answer.of .instrument (session.identify resource).1).recorded? = none :=
      Answer.recorded?_of (fun _ => rfl) _
    refine ⟨(session.identify resource).2, world,
      ⟨.identify resource, .of .instrument (session.identify resource).1, _, []⟩, rfl,
      ⟨rfl, fun earlier => ?_, ?_, writable, .of_disk rfl, .identity⟩, .refl world, ?_,
      .of_unrecorded unrecorded, fun _ _ => List.cons_ne_nil _ _⟩
    case refine_1 =>
      simp only [perform, identify_watched]
      rfl
    case refine_2 => rw [left]; exact logging
    case refine_3 => rw [unrecorded, left, Option.toList_none, List.append_nil]
  | setNickname nickname identity =>
    obtain ⟨registry, left⟩ := session.setNickname_snd nickname identity
    refine ⟨_, _, _, rfl,
      step_silent (.of (fun _ => .done) (session.setNickname nickname identity).1)
        (session.setNickname nickname identity).2 logging writable rfl (fun earlier => ?_)
        (by rw [left]) (by rw [left]) rfl (Answer.recorded?_of (fun _ => rfl) _) rfl⟩
    simp only [perform, setNickname_watched]
  | catalog name =>
    obtain ⟨cache, left⟩ := session.catalog_snd name
    refine ⟨_, _, _, rfl, step_silent (.of .catalog (session.catalog name).1)
      (session.catalog name).2 logging writable rfl (fun earlier => ?_) (by rw [left])
      (by rw [left]) rfl (Answer.recorded?_of (fun _ => rfl) _) rfl⟩
    simp only [perform, catalog_watched]
  | table model =>
    refine ⟨_, _, _, rfl,
      step_silent (.of .table ((session.table model).1.mapError .descriptor))
        (session.table model).2 logging writable rfl (fun earlier => ?_) (by rw [table_snd])
        (by rw [table_snd]) rfl (Answer.recorded?_of (fun _ => rfl) _) rfl⟩
    simp only [perform, table_watched]
  | register instrument =>
    exact ⟨_, _, _, rfl, step_silent .done (session.register instrument) logging writable rfl
      (fun _ => rfl) rfl rfl rfl rfl rfl⟩
  | reload =>
    exact ⟨_, _, _, rfl, step_silent .done session.reload logging writable rfl (fun _ => rfl) rfl
      rfl rfl rfl rfl⟩
  | replaceSource source =>
    exact ⟨_, _, _, rfl, step_silent .done { session with source := source } logging writable rfl
      (fun _ => rfl) rfl rfl rfl rfl rfl⟩
  | respond command response =>
    exact ⟨_, _, _, rfl, step_silent .done
      { session with link := Scripted.respond session.link command response } logging writable rfl
      (fun _ => rfl) rfl rfl rfl rfl rfl⟩
  | refuse resource =>
    exact ⟨_, _, _, rfl, step_silent .done
      { session with link := Scripted.refuse session.link resource } logging writable rfl
      (fun _ => rfl) rfl rfl rfl rfl rfl⟩

/-- The accounts of a run that leads from a session and a world to others: what it was
answered, and one dispatch for each operation. -/
structure Accounts (place : Place) (session : Session channel) (world : World)
    (operations : List Operation) (answers : List Answer) (final : Session channel)
    (after : World) (dispatches : List Dispatch) : Prop where
  ran : (session.performAll operations).run world = ((answers, final), after)
  watched : ∀ earlier, ((session.watched earlier).performAll operations).run world =
    ((answers, final.watched (earlier ++ dispatches.flatMap Dispatch.calls)), after)
  performed : dispatches.map Dispatch.operation = operations
  answered : dispatches.map Dispatch.answer = answers
  audited : ∀ dispatch ∈ dispatches, dispatch.Audited
  entered : ∀ dispatch ∈ dispatches, dispatch.Entered
  reached : ∀ dispatch ∈ dispatches, dispatch.Reached
  gained : CommandLog.Gained place world after (dispatches.flatMap Dispatch.records)
  dated : CommandLog.Dated world after (dispatches.flatMap Dispatch.records)
  recorder : final.recorder.entries =
    session.recorder.entries ++ answers.filterMap Answer.recorded?

theorem Accounts.nil (place : Place) (session : Session channel) (world : World) :
    session.Accounts place world [] [] session world [] where
  ran := rfl
  watched earlier := by
    rw [List.flatMap_nil, List.append_nil]
    rfl
  performed := rfl
  answered := rfl
  audited := List.forall_mem_nil _
  entered := List.forall_mem_nil _
  reached := List.forall_mem_nil _
  gained := .of_disk rfl
  dated := .refl world
  recorder := by rw [List.filterMap_nil, List.append_nil]

/-- A step before a run is part of a longer run. -/
theorem Accounts.cons {next final : Session channel} {middle after : World} {dispatch : Dispatch}
    {rest : List Operation} {answers : List Answer} {dispatches : List Dispatch}
    (step : session.DatedStep directory place world next middle dispatch)
    (run : next.Accounts place middle rest answers final after dispatches) :
    session.Accounts place world (dispatch.operation :: rest) (dispatch.answer :: answers) final
      after (dispatch :: dispatches) where
  ran := by
    rw [performAll, Action.run_bind, step.ran]
    dsimp only
    rw [Action.run_bind, run.ran, Action.run_pure]
  watched earlier := by
    rw [performAll, Action.run_bind, step.watched]
    dsimp only
    rw [Action.run_bind, run.watched, Action.run_pure, List.flatMap_cons, List.append_assoc]
  performed := by rw [List.map_cons, run.performed]
  answered := by rw [List.map_cons, run.answered]
  audited := List.forall_mem_cons.2 ⟨step.audited, run.audited⟩
  entered := List.forall_mem_cons.2 ⟨step.entered, run.entered⟩
  reached := List.forall_mem_cons.2 ⟨step.reached, run.reached⟩
  gained := step.gained.trans run.gained
  dated := step.dated.trans run.dated
  recorder := by
    rw [run.recorder, step.recorder, List.filterMap_eq_flatMap_toList,
      List.filterMap_eq_flatMap_toList, List.flatMap_cons, List.append_assoc]

/-- All operations of a run are accounted for. -/
theorem performAll_accounts (logging : session.auditDirectory = some directory)
    (writable : CommandLog.Writable directory place world) (operations : List Operation) :
    ∃ answers final after dispatches,
      session.Accounts place world operations answers final after dispatches := by
  induction operations generalizing session world with
  | nil => exact ⟨[], session, world, [], .nil place session world⟩
  | cons operation rest ih =>
    obtain ⟨next, middle, dispatch, rfl, step⟩ := perform_audited logging writable operation
    obtain ⟨answers, final, after, dispatches, run⟩ := ih step.logging step.writable
    exact ⟨_, final, after, _, .cons step run⟩

theorem performAll_dispatches (logging : session.auditDirectory = some directory)
    (writable : CommandLog.Writable directory place world) (operations : List Operation) :
    ∃ answers final after, ∃ dispatches : List Dispatch,
      (session.performAll operations).run world = ((answers, final), after) ∧
      (∀ earlier, ((session.watched earlier).performAll operations).run world =
        ((answers, final.watched (earlier ++ dispatches.flatMap Dispatch.calls)), after)) ∧
      dispatches.map Dispatch.operation = operations ∧
      dispatches.map Dispatch.answer = answers ∧
      (∀ dispatch ∈ dispatches, dispatch.Audited) ∧
      CommandLog.Gained place world after (dispatches.flatMap Dispatch.records) := by
  obtain ⟨answers, final, after, dispatches, run⟩ :=
    performAll_accounts logging writable operations
  exact ⟨answers, final, after, dispatches, run.ran, run.watched, run.performed, run.answered,
    run.audited, run.gained⟩

/-- A run logs one line for each command that it hands to its link, answered or not, but for
the queries for identities: they are handed to the link and not logged. -/
theorem performAll_audited (session : Session channel) (operations : List Operation)
    (world : World) (directory : String) (place : Place)
    (logging : session.auditDirectory = some directory)
    (writable : CommandLog.Writable directory place world) :
    ∃ answers final after, ∃ dispatches : List Dispatch,
      (session.performAll operations).run world = ((answers, final), after) ∧
      ((session.watched []).performAll operations).run world =
        ((answers, final.watched (dispatches.flatMap Dispatch.calls)), after) ∧
      dispatches.map Dispatch.operation = operations ∧
      dispatches.map Dispatch.answer = answers ∧
      (∀ dispatch ∈ dispatches, dispatch.Audited) ∧
      CommandLog.Gained place world after (dispatches.flatMap Dispatch.records) ∧
      after.disk.linesBelow place + operations.countP Operation.identifies =
        world.disk.linesBelow place + (dispatches.flatMap Dispatch.calls).length := by
  obtain ⟨answers, final, after, dispatches, ran, watched, performed, answered, audited, gained⟩ :=
    performAll_dispatches logging writable operations
  refine ⟨answers, final, after, dispatches, ran, watched [], performed, answered, audited, gained,
    ?_⟩
  rw [gained.lines, ← performed, Dispatch.length_flatMap_calls audited, Nat.add_assoc]

/-- A session that logs below `cfg`, over a link that answers every query. -/
def logged : Session :=
  .start ⟨[], fun name => .error (.sheetNotFound name)⟩ (.ofDefault (some "ACME PSU-1 SN42"))
    (some "cfg")

end Session

/-- A world without files. -/
def World.bare : World := ⟨⟨[], []⟩, fun _ => 0, 0⟩

theorem CommandLog.writable_bare : Writable "cfg" ["cfg", "command-logs"] .bare where
  located := by decide
  opens reading later := by
    refine ⟨(["cfg", "command-logs", "1970-01-01.jsonl"], ByteArray.empty), ?_⟩
    change Disk.openFile _ (file "cfg" 0) = _
    decide

namespace Session

/-- A setting that is sent is logged, the query for an identity before it is not. -/
theorem performAll_audited_setting :
    let operations : List Operation := [.identify "R", .sendTyped "R" "*RST"]
    logged.auditDirectory = some "cfg" ∧
      CommandLog.Writable "cfg" ["cfg", "command-logs"] .bare ∧
      ∃ answers final after, ∃ dispatches : List Dispatch,
        (logged.performAll operations).run .bare = ((answers, final), after) ∧
        ((logged.watched []).performAll operations).run .bare =
          ((answers, final.watched (dispatches.flatMap Dispatch.calls)), after) ∧
        after.disk.linesBelow ["cfg", "command-logs"] + 1 =
          World.bare.disk.linesBelow ["cfg", "command-logs"] +
            (dispatches.flatMap Dispatch.calls).length := by
  intro operations
  obtain ⟨answers, final, after, dispatches, ran, watched, -, -, -, -, lines⟩ :=
    performAll_audited logged operations .bare "cfg" ["cfg", "command-logs"] rfl
      CommandLog.writable_bare
  exact ⟨rfl, CommandLog.writable_bare, answers, final, after, dispatches, ran, watched, lines⟩

/-- The query for an identity is handed to the link and leaves a log without lines. -/
theorem performAll_identity_unlogged :
    CommandLog.Writable "cfg" ["cfg", "command-logs"] .bare ∧
      let run := ((logged.watched []).performAll [.identify "R"]).run .bare
      run.1.2.link.calls = [⟨"R", .get, "*IDN?"⟩] ∧
        World.bare.disk.linesBelow ["cfg", "command-logs"] = 0 ∧
        run.2.disk.linesBelow ["cfg", "command-logs"] = 0 := by
  refine ⟨CommandLog.writable_bare, ?_⟩
  decide

end Session

end InstrumentBench
