import InstrumentBench.Proofs.Catalog.Lookup
import InstrumentBench.Proofs.CommandLine.Arguments
import InstrumentBench.Proofs.CommandLine.Program
import InstrumentBench.Proofs.Documents
import InstrumentBench.Proofs.Session.Execution

/-!
# Rendering and executing agree

The text of a command can be asked for directly, by its table, or through a session whose
only instrument is a loopback.  Both ways there is a text for the same commands, and it is
the same text (`run_execute_render`): that which the table of the loaded workbook gives
(`RendersFrom`) is what the session records (`ExecutesFrom`).
-/

namespace InstrumentBench

/-- A command of a model has a text: a table of the workbook is found for the model, the
command is in the table, and the values make a text of it. -/
def Workbook.Renders (workbook : Workbook) (model command : String) (values : Values)
    (rendered : Rendered) : Prop :=
  ∃ table definition, loadTable workbook.source model = .ok (some table) ∧
    table.find? command = some definition ∧ definition.render values = .ok rendered

/-- The empty name names no model. -/
theorem Workbook.Renders.model_ne {workbook : Workbook} {model command : String} {values : Values}
    {rendered : Rendered} (renders : workbook.Renders model command values rendered) :
    model ≠ "" := by
  rintro rfl
  obtain ⟨table, _, loaded, -⟩ := renders
  have blank : normalizeModel "" = "" := by decide
  rw [loadTable, matchSheet?, blank] at loaded
  cases loaded

/-- A link that has a reply of its own to everything reaches every resource. -/
theorem Link.send_ofDefault (reply resource : String) (direction : Direction) (text : String) :
    ∃ answer link, (Link.ofDefault (some reply)).send resource direction text =
      (.ok answer, link) := by
  cases direction with
  | get => exact ⟨some reply, _, rfl⟩
  | set => exact ⟨none, _, rfl⟩

namespace Session

variable {channel : Type}

/-- The command of a request is rendered exactly if it has a text. -/
theorem rendering_eq_ok {session : Session channel} {instrument : Instrument} {request : Request}
    {rendered : Rendered} :
    (session.rendering instrument request).1 = .ok rendered ↔
      session.Renders instrument request rendered := by
  unfold rendering Renders
  rcases session.table instrument.identity.model with ⟨_ | _ | table, next⟩
  case error => simp
  case ok.none => simp
  case ok.some =>
    dsimp only
    cases found : table.find? request.command with
    | none => simp [found]
    | some definition => simp [found, Outcome.mapError_eq_ok]

/-- A session that has compiled no table yet gives those of its source. -/
theorem table_of_empty {session : Session channel} (fresh : session.cache = .empty)
    (model : String) : (session.table model).1 = loadTable session.source model := by
  rw [table, fresh]
  rcases TableCache.empty.load_cases session.source model with ⟨_, kept, -⟩ |
    ⟨-, table, loaded, load⟩ | ⟨-, none, load⟩
  · cases kept
  · rw [load, loaded]
    rfl
  · rw [load]
    cases loaded : loadTable session.source model with
    | error => rfl
    | ok answer =>
      cases answer with
      | none => rfl
      | some table => exact absurd loaded (none table)

section Execute

variable [Transport channel] {session : Session channel} {instrument : Instrument}
  {name command : String} {values : Values}

/-- A command with a text that the link brings to the instrument is recorded. -/
theorem execute_of_renders {rendered : Rendered} {reply : Option String} {link : channel}
    (found : session.instrument name = .ok instrument)
    (renders : session.Renders instrument ⟨command, values, none⟩ rendered)
    (sent : Transport.send session.link instrument.resource rendered.direction rendered.text =
      (.ok reply, link)) (world : World) :
    ∃ entry final after,
      (session.execute name command values).run world = ((.ok entry, final), after) ∧
      entry.resource = instrument.resource ∧ entry.direction = rendered.direction ∧
      entry.text = rendered.text ∧ final.recorder = session.recorder.append entry := by
  have text := rendering_eq_ok.2 renders
  obtain ⟨cache, -, ⟨error, failed, -⟩ | ⟨given, rendering, -⟩⟩ :=
    session.rendering_cases instrument ⟨command, values, none⟩
  case inl =>
    rw [failed] at text
    cases text
  case inr =>
    rw [rendering] at text
    obtain rfl : given = rendered := Except.ok.inj text
    obtain ⟨entry, after, -, ran, resource, direction, text, -, -⟩ :=
      run_deliver_of_ok { session with cache := cache } sent world
    have executed : session.execute name command values =
        Session.deliver { session with cache := cache } instrument.resource given :=
      (Execution.execute name command values).perform_of_rendered found rendering
    rw [← executed] at ran
    exact ⟨entry, _, after, ran, resource, direction, text, rfl⟩

/-- A command that is executed has a text. -/
theorem renders_of_execute {entry : Entry} {world : World}
    (found : session.instrument name = .ok instrument)
    (done : ((session.execute name command values).run world).1.1 = .ok entry) :
    ∃ rendered, session.Renders instrument ⟨command, values, none⟩ rendered := by
  obtain ⟨cache, -, ⟨error, failed, -⟩ | ⟨rendered, rendering, renders⟩⟩ :=
    session.rendering_cases instrument ⟨command, values, none⟩
  case inl =>
    have executed : session.execute name command values =
        pure (.error error, { session with cache := cache }) :=
      (Execution.execute name command values).perform_of_unrendered found failed
    rw [executed, Action.run_pure] at done
    cases done
  case inr => exact ⟨rendered, renders⟩

end Execute

end Session

namespace CommandLine

open Program

/-! ## The loopback session -/

section Loopback

variable (context : Context) (workbook : Workbook) (model : String) (loopback : Loopback)

/-- The instrument of a loopback session. -/
def Loopback.instrument : Instrument :=
  .ofIdentity loopback.resource ⟨"", model, ""⟩

/-- The only instrument goes by its resource, unless there are blanks around it. -/
theorem instrument_loopbackSession (bare : Text.trimmed loopback.resource = loopback.resource) :
    (loopbackSession context workbook model loopback).instrument loopback.resource =
      .ok (loopback.instrument model) := by
  have found : (loopbackSession context workbook model loopback).registry.find?
      loopback.resource = some (loopback.instrument model) := by
    change (([loopback.instrument model].find? _).or ([loopback.instrument model].find? _)) = _
    rw [bare, List.find?_cons_of_neg (by exact Bool.false_ne_true), List.find?_nil,
      Option.none_or, List.find?_cons_of_pos (by exact decide_eq_true rfl)]
  rw [Session.instrument, found]

theorem renders_loopbackSession (command : String) (values : Values) (rendered : Rendered) :
    (loopbackSession context workbook model loopback).Renders (loopback.instrument model)
        ⟨command, values, none⟩ rendered ↔
      workbook.Renders model command values rendered := by
  have table : ((loopbackSession context workbook model loopback).table model).1 =
      loadTable workbook.source model := Session.table_of_empty rfl model
  simp only [Session.Renders, Workbook.Renders, Request.resolve_of_values]
  exact table ▸ Iff.rfl

end Loopback

/-! ## The two tasks -/

section Tasks

variable {context : Context} {model command : String} {values : Values} {output written : Output}
  {world after : World}

/-- What is shown of a result: JSON with its members in order, or text. -/
def shown (json : Bool) (value : Json.Value) (text : String) : String :=
  (if json then value.sorted.pretty else text) ++ "\n"

theorem result_show (value : Json.Value) (text : String) :
    (context.show value text).result output world =
      ((.ok (), { output with
        standard := output.standard ++ shown context.json value text }), world) := by
  rw [Context.show, result_print, shown, String.append_assoc]

theorem loadWorkbook_json (context : Context) (json : Bool) :
    ({ context with json := json } : Context).loadWorkbook = context.loadWorkbook := rfl

/-- Loading the workbook writes nothing. -/
theorem result_loadWorkbook (context : Context) (output : Output) (world : World) :
    ∃ outcome after, context.loadWorkbook.result output world = ((outcome, output), after) := by
  rw [Context.loadWorkbook]
  cases context.workbook.or context.settings.workbook with
  | none => exact ⟨_, _, result_throw _⟩
  | some path => exact ⟨_, _, result_attempt _ _⟩

theorem loadWorkbook_eq_ok {workbook : Workbook}
    (loads : context.loadWorkbook.result output world = ((.ok workbook, written), after)) :
    context.loadWorkbook.result output world = ((.ok workbook, output), after) := by
  obtain ⟨outcome, _, loaded⟩ := result_loadWorkbook context output world
  rw [loaded] at loads ⊢
  cases loads
  rfl

/-- A command with a text in the workbook that is loaded is rendered, and the text is shown. -/
theorem renderCommand_of_renders {workbook : Workbook} {rendered : Rendered}
    (loads : context.loadWorkbook.result output world = ((.ok workbook, output), after))
    (renders : workbook.Renders model command values rendered) :
    ∃ written, (renderCommand context model command values).result output world =
        ((.ok (), written), after) ∧
      written.standard = output.standard ++ shown context.json rendered.encode rendered.text := by
  obtain ⟨table, definition, loaded, found, text⟩ := renders
  refine ⟨{ output.warned table.warnings with
    standard := (output.warned table.warnings).standard ++
      shown context.json rendered.encode rendered.text }, ?_, ?_⟩
  case refine_1 =>
    rw [renderCommand, result_bind, loads]
    dsimp only
    rw [result_bind, result_findTable_eq_ok.2 ⟨loaded, rfl, rfl⟩]
    dsimp only
    rw [result_bind, result_findCommand_eq_ok.2 ⟨found, rfl, rfl⟩]
    dsimp only
    rw [result_bind, result_check_eq_ok.2 ⟨text, rfl, rfl⟩]
    dsimp only
    rw [result_show]
  case refine_2 => rw [Output.standard_warned]

/-- A command that is rendered has a text in the workbook that is loaded. -/
theorem renders_of_renderCommand
    (ran : (renderCommand context model command values).result output world =
      ((.ok (), written), after)) :
    ∃ workbook rendered between,
      context.loadWorkbook.result output world = ((.ok workbook, output), between) ∧
      workbook.Renders model command values rendered := by
  rw [renderCommand, result_bind_eq_ok] at ran
  obtain ⟨workbook, _, _, loads, ran⟩ := ran
  obtain ⟨table, _, _, tabled, ran⟩ := result_bind_eq_ok.1 ran
  obtain ⟨loaded, rfl, rfl⟩ := result_findTable_eq_ok.1 tabled
  obtain ⟨definition, _, _, defined, ran⟩ := result_bind_eq_ok.1 ran
  obtain ⟨found, rfl, rfl⟩ := result_findCommand_eq_ok.1 defined
  obtain ⟨rendered, _, _, checked, -⟩ := result_bind_eq_ok.1 ran
  obtain ⟨text, -, -⟩ := result_check_eq_ok.1 checked
  exact ⟨workbook, rendered, _, loadWorkbook_eq_ok loads, table, definition, loaded, found, text⟩

section Execute

/-- A loopback session executes a command, and records nothing but the entry of it. -/
def Records (context : Context) (workbook : Workbook) (model command : String) (values : Values)
    (loopback : Loopback) (world : World) (entry : Entry) : Prop :=
  ∃ session after, ((loopbackSession context workbook model loopback).execute loopback.resource
    command values).run world = ((.ok entry, session), after) ∧ session.recorder.entries = [entry]

variable {loopback : Loopback}

/-- Of a command that was executed the entry or the script is shown. -/
theorem result_report (unsaved : loopback.save = false) (entry : Entry) (session : Session) :
    (report context loopback (.ok entry, session)).result output world =
      ((.ok (), ⟨output.standard ++ shown context.json entry.encode session.recorder.script,
        output.error ++ entry.auditLine ++ "\n"⟩), world) := by
  rw [report, result_bind, result_check_eq_ok.2 ⟨rfl, rfl, rfl⟩]
  dsimp only
  rw [result_bind, result_note]
  dsimp only
  rw [unsaved, if_neg Bool.false_ne_true, result_show]

theorem ok_of_report {answer : Except SessionError Entry × Session}
    (ran : (report context loopback answer).result output world = ((.ok (), written), after)) :
    ∃ entry, answer.1 = .ok entry := by
  rw [report, result_bind_eq_ok] at ran
  obtain ⟨entry, _, _, checked, -⟩ := ran
  exact ⟨entry, (result_check_eq_ok.1 checked).1⟩

variable (bare : Text.trimmed loopback.resource = loopback.resource)

include bare

/-- A command with a text in the workbook that is loaded is executed, and its entry or the
script of it is shown. -/
theorem executeCommand_of_renders (unsaved : loopback.save = false) {workbook : Workbook}
    {rendered : Rendered}
    (loads : context.loadWorkbook.result output world = ((.ok workbook, output), after))
    (renders : workbook.Renders model command values rendered) :
    ∃ entry last, (executeCommand context model command values loopback).result output world =
        ((.ok (), ⟨output.standard ++ shown context.json entry.encode (Script.emit [entry]),
          output.error ++ entry.auditLine ++ "\n"⟩), last) ∧
      Records context workbook model command values loopback after entry ∧
      entry.text = rendered.text ∧ entry.direction = rendered.direction ∧
      entry.resource = loopback.resource := by
  obtain ⟨reply, link, sent⟩ := Link.send_ofDefault (loopback.response.getD "") loopback.resource
    rendered.direction rendered.text
  obtain ⟨entry, final, last, ran, resource, direction, text, recorder⟩ :=
    Session.execute_of_renders (instrument_loopbackSession context workbook model loopback bare)
      ((renders_loopbackSession context workbook model loopback command values rendered).2 renders)
      sent after
  have alone : final.recorder.entries = [entry] := by
    rw [recorder]
    rfl
  refine ⟨entry, last, ?_, ⟨final, last, ran, alone⟩, text, direction, resource⟩
  rw [executeCommand, if_neg renders.model_ne, result_bind, loads]
  dsimp only
  rw [result_bind, result_act, ran]
  dsimp only
  rw [result_report unsaved entry final, Recorder.script, alone]

theorem renders_of_reported {workbook : Workbook}
    (ran : (act ((loopbackSession context workbook model loopback).execute loopback.resource
      command values) >>= report context loopback).result output world =
        ((.ok (), written), after)) :
    ∃ rendered, workbook.Renders model command values rendered := by
  rw [result_bind, result_act] at ran
  obtain ⟨entry, executed⟩ := ok_of_report ran
  obtain ⟨rendered, renders⟩ := Session.renders_of_execute
    (instrument_loopbackSession context workbook model loopback bare) executed
  exact ⟨rendered, (renders_loopbackSession _ _ _ _ _ _ _).1 renders⟩

/-- A command that is executed has a text in the workbook that is loaded. -/
theorem renders_of_executeCommand
    (ran : (executeCommand context model command values loopback).result output world =
      ((.ok (), written), after)) :
    ∃ workbook rendered between,
      context.loadWorkbook.result output world = ((.ok workbook, output), between) ∧
      workbook.Renders model command values rendered := by
  rw [executeCommand] at ran
  split at ran
  next blank =>
    -- the empty workbook has no commands
    rw [result_bind, result_pure] at ran
    obtain ⟨rendered, renders⟩ := renders_of_reported bare ran
    exact absurd blank renders.model_ne
  next =>
    obtain ⟨workbook, _, between, loads, ran⟩ := result_bind_eq_ok.1 ran
    obtain ⟨rendered, renders⟩ := renders_of_reported bare ran
    exact ⟨workbook, rendered, between, loadWorkbook_eq_ok loads, renders⟩

variable (loopback) (json : Bool)

/-- A command that is rendered is executed: the text of the entry that is recorded, and its
direction, are those of what is rendered. -/
theorem executeCommand_of_renderCommand (unsaved : loopback.save = false)
    (ran : (renderCommand context model command values).result output world =
      ((.ok (), written), after)) :
    ∃ (workbook : Workbook) (rendered : Rendered) (entry : Entry) (between last : World),
      context.loadWorkbook.result output world = ((.ok workbook, output), between) ∧
      workbook.Renders model command values rendered ∧
      written.standard = output.standard ++ shown context.json rendered.encode rendered.text ∧
      (executeCommand { context with json := json } model command values loopback).result output
        world = ((.ok (), ⟨output.standard ++ shown json entry.encode (Script.emit [entry]),
          output.error ++ entry.auditLine ++ "\n"⟩), last) ∧
      Records { context with json := json } workbook model command values loopback between entry ∧
      entry.text = rendered.text ∧ entry.direction = rendered.direction ∧
      entry.resource = loopback.resource := by
  obtain ⟨workbook, rendered, between, loads, renders⟩ := renders_of_renderCommand ran
  obtain ⟨_, again, told⟩ := renderCommand_of_renders loads renders
  obtain ⟨entry, last, executed, records, alike⟩ :=
    executeCommand_of_renders bare unsaved ((loadWorkbook_json context json).symm ▸ loads) renders
  rw [ran] at again
  cases again
  exact ⟨workbook, rendered, entry, after, last, loads, renders, told, executed, records, alike⟩

/-- A command that is executed is rendered. -/
theorem renderCommand_of_executeCommand
    (ran : (executeCommand { context with json := json } model command values loopback).result
      output world = ((.ok (), written), after)) :
    ∃ other last, (renderCommand context model command values).result output world =
      ((.ok (), other), last) := by
  obtain ⟨_, _, between, loads, renders⟩ := renders_of_executeCommand bare ran
  rw [loadWorkbook_json] at loads
  obtain ⟨other, rendered, -⟩ := renderCommand_of_renders loads renders
  exact ⟨other, between, rendered⟩

end Execute

end Tasks

/-! ## What a run shows -/

/-- What a run shows of a command that it rendered: JSON that it is read back from, or the
text. -/
structure Outcome.ShowsRendered (outcome : Outcome) (json : Bool) (rendered : Rendered) : Prop where
  standard : outcome.output.standard = shown json rendered.encode rendered.text
  document : json = true →
    Json.decodeText? Rendered.decode outcome.output.standard = some rendered
  text : json = false → outcome.output.standard = rendered.text ++ "\n"

/-- What a run shows of a command that it executed: the audit line of the entry, and JSON that
the entry is read back from or the script that sends it again. -/
structure Outcome.ShowsEntry (outcome : Outcome) (json : Bool) (entry : Entry) : Prop where
  standard : outcome.output.standard = shown json entry.encode (Script.emit [entry])
  audited : outcome.output.error = entry.auditLine ++ "\n"
  document : json = true → entry.millis < Nat.pow 2 64 →
    Json.decodeText? Entry.decode outcome.output.standard = some entry
  script : json = false → outcome.output.standard = Script.emit [entry] ++ "\n"

theorem Outcome.showsRendered_of_standard {outcome : Outcome} {json : Bool} {rendered : Rendered}
    (standard : outcome.output.standard = shown json rendered.encode rendered.text) :
    outcome.ShowsRendered json rendered where
  standard := standard
  document asked := by
    rw [standard, asked]
    exact (rendered.restores_sorted 126).readsBack_line
  text plain := by
    rw [standard, plain]
    rfl

theorem Outcome.showsEntry_of_output {outcome : Outcome} {json : Bool} {entry : Entry}
    (output : outcome.output = ⟨shown json entry.encode (Script.emit [entry]),
      entry.auditLine ++ "\n"⟩) : outcome.ShowsEntry json entry where
  standard := by rw [output]
  audited := by rw [output]
  document asked sized := by
    rw [output, asked]
    exact (Entry.restores_sorted 126 sized).readsBack_line
  script plain := by
    rw [output, plain]
    rfl

/-! ## The two runs -/

section Runs

section Tied

variable (environment : Environment) (world : World) (arguments : List String) (context : Context)
  (workbook : Workbook) (loaded : World) (json : Bool) (model command : String) (values : Values)

/-- A run loads a workbook: its arguments are read, and what its task works with names the
workbook.  Nothing has been written then. -/
def Loads : Prop :=
  ∃ invocation between, Invocation.read arguments = .ok invocation ∧
    (invocation.context environment).run world = (context, between) ∧
    context.loadWorkbook.result ⟨"", ""⟩ between = ((.ok workbook, ⟨"", ""⟩), loaded)

/-- A run renders a command by the table of the workbook it loads, and shows what it
rendered. -/
structure RendersFrom (rendered : Rendered) : Prop where
  loads : Loads environment world arguments context workbook loaded
  renders : workbook.Renders model command values rendered
  shows : ((run environment arguments).run world).1.ShowsRendered json rendered

/-- A run executes a command with the workbook it loads, and shows the entry, which is all that
the session has recorded. -/
structure ExecutesFrom (loopback : Loopback) (entry : Entry) : Prop where
  loads : Loads environment world arguments context workbook loaded
  records : Records context workbook model command values loopback loaded entry
  shows : ((run environment arguments).run world).1.ShowsEntry json entry

end Tied

/-- A run that executes a command ends like one that renders it: it succeeds exactly if the
other does, and then both load the same workbook, and the entry that was recorded has the text
and the direction of what was rendered, and the resource that was asked for.  Each shows its
result as JSON or as text. -/
structure ExecutedAsRendered (environment : Environment) (world : World)
    (asking executing : List String) (json jsonEntry : Bool) (model command : String)
    (values : Values) (loopback : Loopback) : Prop where
  succeeds : ((run environment executing).run world).1.exitCode = 0 ↔
    ((run environment asking).run world).1.exitCode = 0
  agrees : ((run environment asking).run world).1.exitCode = 0 →
    ∃ (context : Context) (workbook : Workbook) (loaded : World) (rendered : Rendered)
      (entry : Entry),
      RendersFrom environment world asking { context with json := json } workbook loaded json
        model command values rendered ∧
      ExecutesFrom environment world executing { context with json := jsonEntry } workbook loaded
        jsonEntry model command values loopback entry ∧
      entry.text = rendered.text ∧ entry.direction = rendered.direction ∧
      entry.resource = loopback.resource

variable {environment : Environment} {world : World} {asking executing : List String}
  {model command : String} {values : Values}

/-- However the two tasks are asked for, the runs agree. -/
theorem executedAsRendered_of_read {workbook configDirectory : Option String}
    {json jsonEntry : Bool} {loopback : Loopback}
    (bare : Text.trimmed loopback.resource = loopback.resource) (unsaved : loopback.save = false)
    (asked : Invocation.read asking =
      .ok ⟨workbook, configDirectory, json, .render model command values⟩)
    (askedToo : Invocation.read executing =
      .ok ⟨workbook, configDirectory, jsonEntry, .execute model command values loopback⟩) :
    ExecutedAsRendered environment world asking executing json jsonEntry model command values
      loopback := by
  -- both runs read the settings first, and go on in the same context but for the flag
  obtain ⟨context, between, begins⟩ := run_context workbook configDirectory environment world
  have renders := exitCode_run asked (begins _ _)
  have executes := exitCode_run askedToo (begins _ _)
  refine ⟨⟨fun done => ?_, fun done => ?_⟩, fun done => ?_⟩
  case refine_1 =>
    obtain ⟨_, _, ran⟩ := executes.1 done
    exact renders.2 (renderCommand_of_executeCommand loopback bare jsonEntry ran)
  case refine_2 =>
    obtain ⟨_, _, ran⟩ := renders.1 done
    obtain ⟨_, _, _, _, last, -, -, -, executed, -⟩ :=
      executeCommand_of_renderCommand loopback bare jsonEntry unsaved ran
    exact executes.2 ⟨_, last, executed⟩
  case refine_3 =>
    obtain ⟨_, _, ran⟩ := renders.1 done
    obtain ⟨book, rendered, entry, loaded, _, loads, rendering, told, executed, records, alike⟩ :=
      executeCommand_of_renderCommand loopback bare jsonEntry unsaved ran
    rw [String.empty_append] at told
    rw [String.empty_append, String.empty_append] at executed
    refine ⟨context, book, loaded, rendered, entry,
      ⟨⟨_, _, asked, begins _ _, loads⟩, rendering, ?_⟩,
      ⟨⟨_, _, askedToo, begins _ _, loads⟩, records, ?_⟩, alike⟩
    case refine_1 =>
      rw [run_of_ok asked (begins _ _) ran]
      exact Outcome.showsRendered_of_standard told
    case refine_2 =>
      rw [run_of_ok askedToo (begins _ _) executed]
      exact Outcome.showsEntry_of_output rfl

/-- Runs that are refused for their arguments agree. -/
theorem executedAsRendered_of_misuse {level other : Level} (json jsonEntry : Bool)
    (loopback : Loopback) (refused : Invocation.read asking = .error (.misuse level))
    (refusedToo : Invocation.read executing = .error (.misuse other)) :
    ExecutedAsRendered environment world asking executing json jsonEntry model command values
      loopback := by
  have exit : ((run environment asking).run world).1.exitCode = 2 := by
    rw [run_of_stop refused]
    rfl
  have exitToo : ((run environment executing).run world).1.exitCode = 2 := by
    rw [run_of_stop refusedToo]
    rfl
  constructor
  · rw [exit, exitToo]
  · rw [exit]
    exact fun done => absurd done (by decide)

end Runs

/-- Whatever the workbook, the model, the command, the values given for its parameters and
the simulated reply, a command is executed exactly if it is rendered, and then the entry that
was recorded has the text and the direction of what was rendered.  Only the name of the
resource must be free of blanks around it.  Either run may show its result as JSON. -/
theorem run_execute_render (environment : Environment) (world : World) (shared : SharedOptions)
    (json : Bool) (model command : String) (assignments : List String) (resource : String)
    (response : Option String) (bare : Text.trimmed resource = resource) :
    ExecutedAsRendered environment world (renderArguments shared model command assignments)
      (executeArguments { shared with json := json } model command assignments resource response)
      shared.json json model command (valuesOf assignments) ⟨resource, response, false⟩ := by
  have asked := read_renderArguments shared model command assignments
  have askedToo := read_executeArguments { shared with json := json } model command assignments
    resource response
  rw [List.all_append] at asked askedToo
  rw [all_accepted_given] at askedToo
  cases admitted : shared.given.all accepted && (assigned assignments).all accepted with
  | false =>
    rw [admitted, if_neg Bool.false_ne_true] at asked askedToo
    exact executedAsRendered_of_misuse shared.json json _ asked askedToo
  | true =>
    rw [admitted, if_pos rfl] at asked askedToo
    exact executedAsRendered_of_read bare rfl asked askedToo

/-- A workbook with a command that sets a voltage. -/
def supplyBook : Workbook :=
  ⟨[⟨"PSU", ["Name", "Cmd", "Parameters", "Get/Set"],
    [["Volt", "VOLT \x7bV\x7d", "V:V.2f", "SET"]]⟩]⟩

/-- A disk with the workbook in a file. -/
def supplyWorld : World :=
  ⟨⟨[], [(["supply.json"], .file supplyBook.encode.compact.toUTF8)]⟩, fun _ => 0, 0⟩

/-- No environment variables are set. -/
def bareEnvironment : Environment := ⟨fun _ => none, "/"⟩

/-- The workbook is named, and JSON asked for. -/
def supplyOptions : SharedOptions := ⟨some "supply.json", none, true⟩

/-- A voltage is rendered and executed when its value is given twice: the last one counts. -/
theorem run_execute_render_voltage :
    let asking := renderArguments supplyOptions "psu" "volt" ["V=5", "V=7"]
    let executing := fun json => executeArguments
      ⟨supplyOptions.workbook, supplyOptions.configDirectory, json⟩ "psu" "volt" ["V=5", "V=7"]
      "R" (some "on")
    let audited := "[1970-01-01 00:00:00] R SET: VOLT 7.00\n"
    Text.trimmed "R" = "R" ∧
      ((run bareEnvironment asking).run supplyWorld).1 =
        .success ⟨"\x7b\n  \"direction\": \"SET\",\n  \"template\": \"VOLT \x7bV\x7d\",\n" ++
          "  \"text\": \"VOLT 7.00\"\n\x7d\n", ""⟩ ∧
      ((run bareEnvironment (executing false)).run supplyWorld).1 =
        .success ⟨"# Generated by scpi-console\nimport pyvisa\n\nrm = pyvisa.ResourceManager()\n" ++
          "inst_1 = rm.open_resource(\"R\")\n\ninst_1.write(\"VOLT 7.00\")\n\n", audited⟩ ∧
      ((run bareEnvironment (executing true)).run supplyWorld).1 =
        .success ⟨"\x7b\n  \"direction\": \"SET\",\n  \"resource\": \"R\",\n" ++
          "  \"response\": null,\n  \"sent_text\": \"VOLT 7.00\",\n" ++
          "  \"timestamp_ms\": 0\n\x7d\n", audited⟩ ∧
      ∀ json, ExecutedAsRendered bareEnvironment supplyWorld asking (executing json) true json
        "psu" "volt" (valuesOf ["V=5", "V=7"]) ⟨"R", some "on", false⟩ := by
  have bare : Text.trimmed "R" = "R" := by decide
  refine ⟨bare, by decide +kernel, by decide +kernel, by decide +kernel, fun json => ?_⟩
  exact run_execute_render bareEnvironment supplyWorld supplyOptions json "psu" "volt"
    ["V=5", "V=7"] "R" (some "on") bare

end CommandLine

end InstrumentBench
