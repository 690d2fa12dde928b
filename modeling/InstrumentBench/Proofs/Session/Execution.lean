import InstrumentBench.Proofs.History.CommandLog
import InstrumentBench.Proofs.Instrument.Link
import InstrumentBench.Proofs.Session.Watched
import InstrumentBench.Proofs.Text.Cutting
import InstrumentBench.Session.Operation

/-!
# Effects of an execution

A command is executed in one piece.  Until its text is rendered nothing has been
touched but the cache, whatever fails; from then on it is sent exactly once, and it is
recorded exactly if the instrument took it.

`run_cases` says all that an execution can do.  Everything else follows from it and
from the session over the watched link.
-/

namespace InstrumentBench

/-- What a cache may have become after a table was looked up: the same, or one more
table has been compiled for the model. -/
def TableCache.Gains (cache : TableCache) (source : SheetSource) (model : String)
    (after : TableCache) : Prop :=
  after = cache ∨ ∃ table,
    cache.tables.find? (normalizeModel model) = none ∧
      loadTable source model = .ok (some table) ∧
      after = ⟨cache.tables.bind (normalizeModel model) ⟨cache.compiled, table⟩,
        cache.compiled + 1⟩

theorem TableCache.gains_load (cache : TableCache) (source : SheetSource) (model : String) :
    cache.Gains source model (cache.load source model).2 := by
  rcases cache.load_cases source model with ⟨_, -, load⟩ | ⟨none, table, loaded, load⟩ |
    ⟨-, -, load⟩
  · exact .inl (by rw [load])
  · exact .inr ⟨table, none, loaded, by rw [load]⟩
  · exact .inl (by rw [load])

/-- The log files, if there are any, are all that has changed between two worlds. -/
def CommandLog.ConfinedIf (directory : Option String) (before after : World) : Prop :=
  match directory with
  | some directory => Confined directory before after
  | none => after.disk = before.disk ∧ after.clock = before.clock

theorem CommandLog.ConfinedIf.read {directory : Option String} {before after : World}
    (confined : ConfinedIf directory before after) :
    ConfinedIf directory before (after.answer .now).2 := by
  cases directory with
  | none => exact confined
  | some directory => exact Confined.read confined

/-- From one world to another a command was logged, if there are log files, and then the
clock may have been read. -/
def CommandLog.Logs (directory : Option String) (call : Sent)
    (outcome : Except String (Option String)) (before after : World) : Prop :=
  ∀ name ∈ directory, ∃ logged,
    ((add name call.resource call.direction call.text outcome).run before).2 = logged ∧
      (after = logged ∨ after = (logged.answer .now).2)

theorem CommandLog.Logs.read {directory : Option String} {call : Sent}
    {outcome : Except String (Option String)} {before after : World}
    (logs : ∀ name ∈ directory,
      ((add name call.resource call.direction call.text outcome).run before).2 = after) :
    Logs directory call outcome before (after.answer .now).2 :=
  fun name some => ⟨after, logs name some, .inr rfl⟩

/-- A response is a reply without the line ends after it, and nothing else is
missing. -/
def LineEndsRemoved (reply response : String) : Prop :=
  ∃ ends : List Char, reply.toList = response.toList ++ ends ∧
    (∀ c ∈ ends, c = '\r' ∨ c = '\n') ∧
    ∀ c ∈ response.toList.getLast?, ¬(c = '\r' ∨ c = '\n')

theorem lineEndsRemoved_withoutLineEnds (reply : String) :
    LineEndsRemoved reply (withoutLineEnds reply) := by
  obtain ⟨ends, whole, dropped, kept⟩ :=
    Text.trimEndOf_append (fun c => c = '\r' || c = '\n') reply.toList
  refine ⟨ends, ?_, fun c member => by simpa using dropped c member, ?_⟩
  case refine_1 => rw [withoutLineEnds, String.toList_ofList]; exact whole
  case refine_2 =>
    rw [withoutLineEnds, String.toList_ofList]
    exact fun c last => by simpa using kept c last

namespace Session

variable {channel : Type}

theorem instrument_ne_link {session : Session channel} {name : String} {error : SessionError}
    (unknown : session.instrument name = .error error) (reason : LinkError) :
    error ≠ .link reason := by
  rw [instrument] at unknown
  split at unknown <;> cases unknown
  nofun

/-- Looking up a table changes the cache only. -/
theorem table_snd (session : Session channel) (model : String) :
    (session.table model).2 =
      { session with cache := (session.cache.load session.source model).2 } := by
  simp only [table]

/-- Looking at the catalog of a model is looking up its table. -/
theorem catalogOf_snd (session : Session channel) (model : String) :
    (session.catalogOf model).2 = (session.table model).2 := by
  rw [catalogOf]
  rcases session.table model with ⟨_ | _ | table, next⟩ <;> rfl

/-- The command of a request has a text for an instrument: its model has a table, the
table has the command, and the command can be rendered. -/
def Renders (session : Session channel) (instrument : Instrument) (request : Request)
    (rendered : Rendered) : Prop :=
  ∃ table definition, (session.table instrument.identity.model).1 = .ok (some table) ∧
    table.find? request.command = some definition ∧
    definition.render (request.resolve definition) = .ok rendered

/-- Rendering may add a table to the cache.  It does not fail because of the link. -/
theorem rendering_cases (session : Session channel) (instrument : Instrument)
    (request : Request) :
    ∃ cache, session.cache.Gains session.source instrument.identity.model cache ∧
      ((∃ error, session.rendering instrument request =
            (.error error, { session with cache := cache }) ∧ ∀ reason, error ≠ .link reason) ∨
        ∃ rendered, session.rendering instrument request =
            (.ok rendered, { session with cache := cache }) ∧
          session.Renders instrument request rendered) := by
  refine ⟨_, TableCache.gains_load _ _ _, ?_⟩
  rw [← table_snd]
  unfold rendering Renders
  rcases session.table instrument.identity.model with ⟨_ | _ | table, next⟩
  case error => exact .inl ⟨_, rfl, nofun⟩
  case ok.none => exact .inl ⟨_, rfl, nofun⟩
  case ok.some =>
    dsimp only
    cases found : table.find? request.command with
    | none => exact .inl ⟨_, rfl, nofun⟩
    | some definition =>
      cases text : definition.render (request.resolve definition) with
      | error error => exact .inl ⟨.render error, by simp only [text]; rfl, nofun⟩
      | ok rendered =>
        exact .inr ⟨rendered, by simp only [text]; rfl, table, definition, rfl, found, text⟩

/-- Logging is confined to the log files of the session. -/
theorem confinedIf_log (session : Session channel) (resource : String) (rendered : Rendered)
    (outcome : Except String (Option String)) (world : World) :
    CommandLog.ConfinedIf session.auditDirectory world
      ((session.log resource rendered outcome).run world).2 := by
  rw [log]
  cases session.auditDirectory with
  | none => exact ⟨rfl, rfl⟩
  | some directory => exact CommandLog.confined_add _ _ _ _ _ _

theorem logs_log (session : Session channel) (resource : String) (rendered : Rendered)
    (outcome : Except String (Option String)) (world : World) :
    ∀ name ∈ session.auditDirectory,
      ((CommandLog.add name resource rendered.direction rendered.text outcome).run world).2 =
        ((session.log resource rendered outcome).run world).2 := by
  intro name some
  rw [log, Option.mem_def.1 some]

variable [Transport channel]

/-- A command that the link fails to bring to its instrument is logged. -/
theorem run_deliver_of_error (session : Session channel) {resource : String}
    {rendered : Rendered} {error : LinkError} {link : channel}
    (sent : Transport.send session.link resource rendered.direction rendered.text =
      (.error error, link)) (world : World) :
    ∃ after, CommandLog.ConfinedIf session.auditDirectory world after ∧
      (session.deliver resource rendered).run world =
        ((.error (.link error), { session with link := link }), after) ∧
      CommandLog.Logs session.auditDirectory ⟨resource, rendered.direction, rendered.text⟩
        (.error error.message) world after := by
  refine ⟨_, session.confinedIf_log resource rendered (.error error.message) world, ?_,
    fun name some => ⟨_, session.logs_log resource rendered _ world name some, .inl rfl⟩⟩
  rw [deliver, sent]
  dsimp only
  rw [Action.run_bind, Action.run_pure]

/-- A command that its instrument takes is logged and recorded. -/
theorem run_deliver_of_ok (session : Session channel) {resource : String}
    {rendered : Rendered} {reply : Option String} {link : channel}
    (sent : Transport.send session.link resource rendered.direction rendered.text =
      (.ok reply, link)) (world : World) :
    ∃ entry after, CommandLog.ConfinedIf session.auditDirectory world after ∧
      (session.deliver resource rendered).run world =
        ((.ok entry, { session with link := link, recorder := session.recorder.append entry }),
          after) ∧
      entry.resource = resource ∧ entry.direction = rendered.direction ∧
      entry.text = rendered.text ∧ entry.response = reply.map withoutLineEnds ∧
      CommandLog.Logs session.auditDirectory ⟨resource, rendered.direction, rendered.text⟩
        (.ok entry.response) world after := by
  have confined := session.confinedIf_log resource rendered (.ok (reply.map withoutLineEnds)) world
  have logged := session.logs_log resource rendered (.ok (reply.map withoutLineEnds)) world
  rw [deliver, sent]
  dsimp only
  rw [Action.run_bind]
  generalize ((session.log resource rendered _).run world).2 = middle at confined logged
  exact ⟨session.recorder.stamped (middle.clock middle.readings) rendered.direction resource
    rendered.text (reply.map withoutLineEnds), _, confined.read, rfl, rfl, rfl, rfl, rfl,
    .read logged⟩

end Session

/-- The ways to have a command executed. -/
inductive Execution where
  | execute (name command : String) (values : Values)
  | request (name : String) (asked : Request)
  | sendTyped (name text : String)

namespace Execution

/-- The name of the instrument that is to take the command. -/
def name : Execution → String
  | .execute name .. => name
  | .request name _ => name
  | .sendTyped name _ => name

variable {channel : Type}

/-- The rendered command for an instrument, and the session after its table was
looked up. -/
def rendering (session : Session channel) (instrument : Instrument) :
    Execution → Except SessionError Rendered × Session channel
  | .execute _ command values => session.rendering instrument ⟨command, values, none⟩
  | .request _ asked => session.rendering instrument asked
  | .sendTyped _ text => ((Rendered.ofTyped text).mapError .render, session)

/-- Executes the command. -/
def perform [Transport channel] (session : Session channel) :
    Execution → Action (Except SessionError Entry × Session channel)
  | .execute name command values => session.execute name command values
  | .request name asked => session.request name asked
  | .sendTyped name text => session.sendTyped name text

/-- A command is delivered once its instrument is found and its text rendered. -/
theorem perform_eq [Transport channel] (execution : Execution) (session : Session channel) :
    execution.perform session =
      match session.instrument execution.name with
      | .error error => pure (.error error, session)
      | .ok instrument =>
        match execution.rendering session instrument with
        | (.error error, session) => pure (.error error, session)
        | (.ok rendered, session) => session.deliver instrument.resource rendered := by
  cases execution with
  | execute => rfl
  | request => rfl
  | sendTyped name text =>
    simp only [perform, Session.sendTyped, rendering, Execution.name]
    cases session.instrument name with
    | error => rfl
    | ok => cases Rendered.ofTyped text <;> rfl

section Steps

variable [Transport channel] {execution : Execution} {session later : Session channel}
  {instrument : Instrument}

theorem perform_of_unknown {error : SessionError}
    (unknown : session.instrument execution.name = .error error) :
    execution.perform session = pure (.error error, session) := by
  rw [perform_eq, unknown]

theorem perform_of_unrendered {error : SessionError}
    (found : session.instrument execution.name = .ok instrument)
    (unrendered : execution.rendering session instrument = (.error error, later)) :
    execution.perform session = pure (.error error, later) := by
  rw [perform_eq, found]
  dsimp only
  rw [unrendered]

theorem perform_of_rendered {rendered : Rendered}
    (found : session.instrument execution.name = .ok instrument)
    (rendering : execution.rendering session instrument = (.ok rendered, later)) :
    execution.perform session = later.deliver instrument.resource rendered := by
  rw [perform_eq, found]
  dsimp only
  rw [rendering]

end Steps

/-- The text that is sent to an instrument. -/
def Renders (session : Session channel) (instrument : Instrument) (rendered : Rendered) :
    Execution → Prop
  | .execute _ command values => session.Renders instrument ⟨command, values, none⟩ rendered
  | .request _ asked => session.Renders instrument asked rendered
  | .sendTyped _ text => Rendered.ofTyped text = .ok rendered

/-- Rendering may add a table to the cache.  It does not fail because of the link. -/
theorem rendering_cases (execution : Execution) (session : Session channel)
    (instrument : Instrument) :
    ∃ cache, session.cache.Gains session.source instrument.identity.model cache ∧
      ((∃ error, execution.rendering session instrument =
            (.error error, { session with cache := cache }) ∧ ∀ reason, error ≠ .link reason) ∨
        ∃ rendered, execution.rendering session instrument =
            (.ok rendered, { session with cache := cache }) ∧
          execution.Renders session instrument rendered) := by
  cases execution with
  | execute => exact session.rendering_cases _ _
  | request => exact session.rendering_cases _ _
  | sendTyped name text =>
    refine ⟨session.cache, .inl rfl, ?_⟩
    cases typed : Rendered.ofTyped text with
    | error error => exact .inl ⟨.render error, by rw [rendering, typed]; rfl, nofun⟩
    | ok rendered => exact .inr ⟨rendered, by rw [rendering, typed]; rfl, typed⟩

theorem rendering_watched {execution : Execution} {session later : Session channel}
    {instrument : Instrument} {outcome : Except SessionError Rendered}
    (rendering : execution.rendering session instrument = (outcome, later))
    (calls : List Sent) :
    execution.rendering (session.watched calls) instrument = (outcome, later.watched calls) := by
  suffices same : execution.rendering (session.watched calls) instrument =
      ((execution.rendering session instrument).1,
        (execution.rendering session instrument).2.watched calls) by
    rw [same, rendering]
  cases execution with
  | execute => exact session.rendering_watched _ _ _
  | request => exact session.rendering_watched _ _ _
  | sendTyped => rfl

/-- The call that an execution is to make: the rendered text goes to the instrument
that was named. -/
def Calls (execution : Execution) (session : Session channel) (call : Sent) : Prop :=
  ∃ instrument rendered, session.instrument execution.name = .ok instrument ∧
    execution.Renders session instrument rendered ∧
    call = ⟨instrument.resource, rendered.direction, rendered.text⟩

/-- Between two sessions nothing has changed that no execution may change.  The cache
may have gained a table for the model of the instrument. -/
structure Frames (execution : Execution) (session final : Session channel) : Prop where
  source : final.source = session.source
  registry : final.registry = session.registry
  auditDirectory : final.auditDirectory = session.auditDirectory
  cache : final.cache = session.cache ∨
    ∃ instrument, session.instrument execution.name = .ok instrument ∧
      session.cache.Gains session.source instrument.identity.model final.cache

/-- An entry is what becomes of a call that the link has brought to its instrument.
The entry of a query has the reply without its line ends, that of a setting none. -/
structure Answers [Transport channel] (before after : channel) (call : Sent) (entry : Entry) :
    Prop where
  resource : entry.resource = call.resource
  direction : entry.direction = call.direction
  text : entry.text = call.text
  response :
    match call.direction with
    | .set => Transport.write before call.resource call.text = (.ok (), after) ∧
        entry.response = none
    | .get => ∃ reply response, Transport.query before call.resource call.text =
        (.ok reply, after) ∧ entry.response = some response ∧ LineEndsRemoved reply response

variable [Transport channel]

theorem answers_of_send {before after : channel} {call : Sent} {reply : Option String}
    {entry : Entry}
    (sent : Transport.send before call.resource call.direction call.text = (.ok reply, after))
    (resource : entry.resource = call.resource) (direction : entry.direction = call.direction)
    (text : entry.text = call.text) (response : entry.response = reply.map withoutLineEnds) :
    Answers before after call entry := by
  refine ⟨resource, direction, text, ?_⟩
  revert sent
  cases call.direction with
  | get =>
    intro sent
    obtain ⟨_ | reply, asked, ⟨⟩⟩ := Transport.query_of_send sent
    exact ⟨reply, _, asked, response, lineEndsRemoved_withoutLineEnds reply⟩
  | set =>
    intro sent
    obtain ⟨_ | _, told, ⟨⟩⟩ := Transport.write_of_send sent
    exact ⟨told, response⟩

/-- All that an execution can do to a session and a world, with the calls it makes. -/
inductive Effect (execution : Execution) (session : Session channel) (world : World) :
    List Sent → Except SessionError Entry → Session channel → World → Prop where
  /-- There is no rendered text to be sent. -/
  | unprepared {error : SessionError} {final : Session channel}
      (other : ∀ reason, error ≠ .link reason) (frames : execution.Frames session final)
      (link : final.link = session.link) (recorder : final.recorder = session.recorder) :
      Effect execution session world [] (.error error) final world
  /-- The link fails. -/
  | failed {call : Sent} {error : LinkError} {final : Session channel} {after : World}
      (calls : execution.Calls session call) (frames : execution.Frames session final)
      (sent : Transport.send session.link call.resource call.direction call.text =
        (.error error, final.link))
      (recorder : final.recorder = session.recorder)
      (confined : CommandLog.ConfinedIf session.auditDirectory world after)
      (logged : CommandLog.Logs session.auditDirectory call (.error error.message) world after) :
      Effect execution session world [call] (.error (.link error)) final after
  /-- The instrument takes the command. -/
  | taken {call : Sent} {entry : Entry} {final : Session channel} {after : World}
      (calls : execution.Calls session call) (frames : execution.Frames session final)
      (answers : Answers session.link final.link call entry)
      (recorder : final.recorder.entries = session.recorder.entries ++ [entry])
      (confined : CommandLog.ConfinedIf session.auditDirectory world after)
      (logged : CommandLog.Logs session.auditDirectory call (.ok entry.response) world after) :
      Effect execution session world [call] (.ok entry) final after

/-- An execution has one of the three effects, and over a watched link makes the calls
that go with it. -/
theorem run_cases (execution : Execution) (session : Session channel) (world : World) :
    ∃ calls outcome final after,
      (execution.perform session).run world = ((outcome, final), after) ∧
      (∀ earlier, (execution.perform (session.watched earlier)).run world =
        ((outcome, final.watched (earlier ++ calls)), after)) ∧
      execution.Effect session world calls outcome final after := by
  cases found : session.instrument execution.name with
  | error error =>
    refine ⟨[], .error error, session, world, ?_, fun earlier => ?_,
      .unprepared (Session.instrument_ne_link found) ⟨rfl, rfl, rfl, .inl rfl⟩ rfl rfl⟩
    case refine_1 => rw [perform_of_unknown found, Action.run_pure]
    case refine_2 =>
      have foundWatched := (session.instrument_watched earlier execution.name).trans found
      rw [perform_of_unknown foundWatched, List.append_nil, Action.run_pure]
  | ok instrument =>
    have foundWatched : ∀ earlier, (session.watched earlier).instrument execution.name = _ :=
      fun earlier => (session.instrument_watched earlier execution.name).trans found
    obtain ⟨cache, gains, ⟨error, rendering, other⟩ | ⟨rendered, rendering, renders⟩⟩ :=
      execution.rendering_cases session instrument
    case inl =>
      refine ⟨[], .error error, { session with cache := cache }, world, ?_, fun earlier => ?_,
        .unprepared other ⟨rfl, rfl, rfl, .inr ⟨instrument, found, gains⟩⟩ rfl rfl⟩
      case refine_1 => rw [perform_of_unrendered found rendering, Action.run_pure]
      case refine_2 =>
        rw [perform_of_unrendered (foundWatched earlier) (rendering_watched rendering earlier),
          List.append_nil, Action.run_pure]
    case inr =>
      have calls : execution.Calls session
          ⟨instrument.resource, rendered.direction, rendered.text⟩ :=
        ⟨instrument, rendered, found, renders, rfl⟩
      have ran : (execution.perform session).run world =
          (({ session with cache := cache } : Session channel).deliver instrument.resource
            rendered).run world := by
        rw [perform_of_rendered found rendering]
      have ranWatched : ∀ earlier, (execution.perform (session.watched earlier)).run world = _ :=
        fun earlier => by
          rw [perform_of_rendered (foundWatched earlier) (rendering_watched rendering earlier),
            Session.run_deliver_watched]
      rcases sent : Transport.send session.link instrument.resource rendered.direction
        rendered.text with ⟨error | reply, link⟩
      case error =>
        obtain ⟨after, confined, delivered, logged⟩ :=
          Session.run_deliver_of_error { session with cache := cache } sent world
        rw [delivered] at ran ranWatched
        exact ⟨_, _, _, _, ran, ranWatched,
          .failed calls ⟨rfl, rfl, rfl, .inr ⟨instrument, found, gains⟩⟩ sent rfl confined
            logged⟩
      case ok =>
        obtain ⟨entry, after, confined, delivered, resource, direction, text, response,
            logged⟩ :=
          Session.run_deliver_of_ok { session with cache := cache } sent world
        rw [delivered] at ran ranWatched
        exact ⟨_, _, _, _, ran, ranWatched,
          .taken calls ⟨rfl, rfl, rfl, .inr ⟨instrument, found, gains⟩⟩
            (answers_of_send sent resource direction text response) rfl confined logged⟩

/-- An execution that fails before the link is called leaves no trace but a table in the
cache.  One that fails because of the link has called it once.  One that succeeds has
called it once, with the rendered text for the instrument that was named, and has put
its entry at the end of the record.  Besides the link and the log files nothing else has
changed. -/
theorem perform_atomic (execution : Execution) (session : Session channel) (world : World) :
    ∃ calls outcome final after,
      (execution.perform session).run world = ((outcome, final), after) ∧
      (execution.perform (session.watched [])).run world =
        ((outcome, final.watched calls), after) ∧
      execution.Frames session final ∧
      match outcome with
      | .ok entry => ∃ call, calls = [call] ∧ execution.Calls session call ∧
          Answers session.link final.link call entry ∧
          final.recorder.entries = session.recorder.entries ++ [entry] ∧
          CommandLog.ConfinedIf session.auditDirectory world after
      | .error (.link error) => ∃ call, calls = [call] ∧ execution.Calls session call ∧
          Transport.send session.link call.resource call.direction call.text =
            (.error error, final.link) ∧
          final.recorder = session.recorder ∧
          CommandLog.ConfinedIf session.auditDirectory world after
      | .error _ => calls = [] ∧ final.link = session.link ∧
          final.recorder = session.recorder ∧ after = world := by
  obtain ⟨calls, outcome, final, after, ran, watched, effect⟩ := execution.run_cases session world
  refine ⟨calls, outcome, final, after, ran, watched [], ?_⟩
  cases effect with
  | unprepared other frames link recorder =>
    refine ⟨frames, ?_⟩
    split
    next unprepared => cases unprepared
    next reason unprepared =>
      cases unprepared
      exact absurd rfl (other reason)
    next => exact ⟨rfl, link, recorder, rfl⟩
  | failed calls frames sent recorder confined =>
    exact ⟨frames, _, rfl, calls, sent, recorder, confined⟩
  | taken calls frames answers recorder confined =>
    exact ⟨frames, _, rfl, calls, answers, recorder, confined⟩

end Execution

/-- The execution that an operation asks for, if it does. -/
def Operation.execution? : Operation → Option Execution
  | .execute name command values => some (.execute name command values)
  | .request name asked => some (.request name asked)
  | .sendTyped name text => some (.sendTyped name text)
  | _ => none

/-- An operation that executes a command answers with the entry or the error. -/
theorem Session.run_perform_execution {channel : Type} [Scripted channel] {operation : Operation}
    {execution : Execution} (executes : operation.execution? = some execution)
    (session : Session channel) (world : World) :
    (session.perform operation).run world =
      let ((outcome, next), after) := (execution.perform session).run world
      ((.of .entry outcome, next), after) := by
  cases operation <;> cases executes <;> exact Action.run_bind _ _ _

end InstrumentBench
