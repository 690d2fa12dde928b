import InstrumentBench.Proofs.Session.Execution
import InstrumentBench.Session.Catalog

/-!
# Catalogs and requests

A catalog and a request look up the same instrument and the same table, and the table that
one of them has compiled is the one that the other finds.  So a catalog tells what becomes of
a request before anything is rendered or sent, whichever of the two is asked for first.

`agrees_of_table` says so of any two sessions that know the same instrument and give the same
table for its model, and `catalog_agrees` of the catalog and the request of one session.
-/

namespace InstrumentBench

/-- A look-up gives the same table again. -/
theorem TableCache.load_of_gains {cache after : TableCache} {source : SheetSource}
    {model : String} (gains : cache.Gains source model after) :
    (after.load source model).1 = (cache.load source model).1 := by
  rcases gains with rfl | ⟨table, unkept, loaded, rfl⟩
  · rfl
  · have first : (cache.load source model).1 = .ok (some ⟨cache.compiled, table⟩) := by
      rw [load, unkept]
      dsimp only
      rw [loaded]
    rw [first, load, Bindings.find?_bind, if_pos rfl]

/-- A name is not found in a table exactly if none of the layouts listed for it has the
name, blanks around it and the case of letters apart. -/
theorem Table.find?_eq_none_iff {table : Table} {name : String} :
    table.find? name = none ↔
      ∀ layout ∈ (Catalog.ofTable table).commands,
        Text.lowercased layout.command ≠ Text.lowercased (Text.trimmed name) := by
  rw [find?, List.find?_eq_none, Catalog.ofTable, Catalog.commands, List.forall_mem_map]
  simp [Layout.ofDefinition]

/-- What a catalog tells about the outcome of a request. -/
structure Catalog.Foretells (catalog : Catalog) (request : Request)
    (outcome : Except SessionError Entry) : Prop where
  /-- With a table the request does not fail for want of one. -/
  tabled : catalog.found = true → ∀ error, outcome = .error error →
    (∀ model, error ≠ .noDescriptor model) ∧ ∀ reason, error ≠ .descriptor reason
  /-- The layouts are those of the commands that can be asked for. -/
  named : catalog.found = true →
    ((∃ model command, outcome = .error (.unknownCommand model command)) ↔
      ∀ layout ∈ catalog.commands,
        Text.lowercased layout.command ≠ Text.lowercased (Text.trimmed request.command))
  missing : catalog.found = false → catalog.loadError = none →
    outcome = .error (.noDescriptor catalog.model)
  unreadable : ∀ reason, catalog.found = false → catalog.loadError = some reason →
    ∃ error, outcome = .error (.descriptor error) ∧ error.message = reason

/-- A command that is listed may fail to be rendered or sent, but not before that. -/
theorem Catalog.foretells_of_find? {table : Table} {request : Request} {definition : Definition}
    {outcome : Except SessionError Entry} (found : table.find? request.command = some definition)
    (later : ∀ error, outcome = .error error →
      (∃ reason, error = .render reason) ∨ ∃ reason, error = .link reason) :
    (ofTable table).Foretells request outcome := by
  have listed : ¬∀ layout ∈ (ofTable table).commands,
      Text.lowercased layout.command ≠ Text.lowercased (Text.trimmed request.command) := by
    rw [← Table.find?_eq_none_iff, found]
    nofun
  refine ⟨fun _ error failed => ?_, fun _ => iff_of_false ?_ listed, nofun, nofun⟩
  case refine_1 =>
    rcases later error failed with ⟨reason, rfl⟩ | ⟨reason, rfl⟩ <;> exact ⟨nofun, nofun⟩
  case refine_2 =>
    rintro ⟨model, command, failed⟩
    rcases later _ failed with ⟨reason, other⟩ | ⟨reason, other⟩ <;> cases other

/-- A catalog without a table tells why there is none. -/
theorem Catalog.foretells_unlisted {model : String} {loadError : Option String}
    {request : Request} {outcome : Except SessionError Entry}
    (missing : loadError = none → outcome = .error (.noDescriptor model))
    (unreadable : ∀ reason, loadError = some reason →
      ∃ error, outcome = .error (.descriptor error) ∧ error.message = reason) :
    (unlisted model loadError).Foretells request outcome where
  tabled found := absurd found Bool.false_ne_true
  named found := absurd found Bool.false_ne_true
  missing _ := missing
  unreadable reason _ := unreadable reason

/-- A catalog and a request agree about an instrument: it is unknown to both, or the
catalog tells the outcome of the request. -/
def Catalog.Agrees (answer : Except SessionError Catalog) (request : Request)
    (outcome : Except SessionError Entry) : Prop :=
  match answer with
  | .error error => outcome = .error error ∧ ∃ name, error = .unknownInstrument name
  | .ok catalog => catalog.Foretells request outcome

namespace Session

variable {channel : Type}

/-- The catalog of an instrument fails exactly if no instrument goes by the name. -/
theorem catalog_eq_error_iff (session : Session channel) (name : String) :
    (∃ error, (session.catalog name).1 = .error error) ↔ session.registry.find? name = none := by
  rw [catalog, instrument]
  cases session.registry.find? name <;> simp

/-- The catalog of a known instrument is that of its model. -/
theorem catalog_of_known {session : Session channel} {name : String} {instrument : Instrument}
    (known : session.instrument name = .ok instrument) :
    (session.catalog name).1 = .ok
      (match (session.table instrument.identity.model).1 with
      | .ok (some table) => .ofTable table
      | .ok none => .unlisted instrument.identity.model none
      | .error error => .unlisted instrument.identity.model (some error.message)) := by
  rw [catalog, known]
  dsimp only
  rw [catalogOf]
  rcases session.table instrument.identity.model with ⟨_ | _ | table, next⟩ <;> rfl

/-- Looking at a catalog leaves alone what a request leaves alone. -/
theorem frames_catalog (session : Session channel) (name : String) (request : Request) :
    (Execution.request name request).Frames session (session.catalog name).2 := by
  rw [catalog]
  cases found : session.instrument name with
  | error error => exact ⟨rfl, rfl, rfl, .inl rfl⟩
  | ok instrument =>
    dsimp only
    rw [catalogOf_snd, table_snd]
    exact ⟨rfl, rfl, rfl, .inr ⟨instrument, found, TableCache.gains_load _ _ _⟩⟩

section Frames

variable {session later : Session channel} {execution : Execution}

theorem instrument_of_frames (frames : execution.Frames session later) :
    later.instrument execution.name = session.instrument execution.name := by
  rw [Session.instrument, Session.instrument, frames.registry]

/-- Where the cache has at most gained the table of an instrument's model, it is found
there. -/
theorem table_of_frames (frames : execution.Frames session later) {instrument : Instrument}
    (known : session.instrument execution.name = .ok instrument) :
    (later.table instrument.identity.model).1 = (session.table instrument.identity.model).1 := by
  rcases frames.cache with unchanged | ⟨other, otherKnown, gains⟩
  · simp only [table, frames.source, unchanged]
  · cases known.symm.trans otherKnown
    simp only [table, frames.source, TableCache.load_of_gains gains]

end Frames

variable [Transport channel] {session : Session channel} {name : String}
  {instrument : Instrument}

/-- What is delivered is recorded, or the link fails. -/
theorem outcome_deliver (session : Session channel) (resource : String) (rendered : Rendered)
    (world : World) :
    (∃ entry, ((session.deliver resource rendered).run world).1.1 = .ok entry) ∨
      ∃ error, ((session.deliver resource rendered).run world).1.1 = .error (.link error) := by
  rcases sent : Transport.send session.link resource rendered.direction rendered.text with
    ⟨error | reply, link⟩
  · obtain ⟨after, -, delivered, -⟩ := session.run_deliver_of_error sent world
    exact .inr ⟨error, by rw [delivered]⟩
  · obtain ⟨entry, after, -, delivered, -⟩ := session.run_deliver_of_ok sent world
    exact .inl ⟨entry, by rw [delivered]⟩

theorem request_of_unknown {error : SessionError} (unknown : session.instrument name = .error error)
    (request : Request) : session.request name request = pure (.error error, session) := by
  rw [Session.request, unknown]

theorem outcome_request_of_error {error : DescriptorError}
    (known : session.instrument name = .ok instrument)
    (tabled : (session.table instrument.identity.model).1 = .error error) (request : Request)
    (world : World) :
    ((session.request name request).run world).1.1 = .error (.descriptor error) := by
  rw [Session.request, known]
  dsimp only
  rw [rendering, show session.table instrument.identity.model = (.error error, _) from
    Prod.ext tabled rfl]
  rfl

theorem outcome_request_of_none (known : session.instrument name = .ok instrument)
    (tabled : (session.table instrument.identity.model).1 = .ok none) (request : Request)
    (world : World) :
    ((session.request name request).run world).1.1 =
      .error (.noDescriptor instrument.identity.model) := by
  rw [Session.request, known]
  dsimp only
  rw [rendering, show session.table instrument.identity.model = (.ok none, _) from
    Prod.ext tabled rfl]
  rfl

/-- With a table only the name of the command can be unknown before it is rendered. -/
theorem foretells_of_table {table : Table} (known : session.instrument name = .ok instrument)
    (tabled : (session.table instrument.identity.model).1 = .ok (some table)) (request : Request)
    (world : World) :
    (Catalog.ofTable table).Foretells request
      ((session.request name request).run world).1.1 := by
  rw [Session.request, known]
  dsimp only
  rw [rendering, show session.table instrument.identity.model = (.ok (some table), _) from
    Prod.ext tabled rfl]
  dsimp only
  cases found : table.find? request.command with
  | none =>
    refine ⟨fun _ error failed => ?_, fun _ => ?_, nofun, nofun⟩
    · cases failed
      exact ⟨nofun, nofun⟩
    · exact iff_of_true ⟨_, _, rfl⟩ (Table.find?_eq_none_iff.1 found)
  | some definition =>
    refine Catalog.foretells_of_find? found fun error failed => ?_
    dsimp only at failed
    cases text : definition.render (request.resolve definition) with
    | error reason =>
      rw [text] at failed
      cases failed
      exact .inl ⟨reason, rfl⟩
    | ok rendered =>
      rw [text] at failed
      rcases outcome_deliver (session.table instrument.identity.model).2 instrument.resource
        rendered world with ⟨entry, taken⟩ | ⟨reason, refused⟩
      · cases failed.symm.trans taken
      · cases failed.symm.trans refused
        exact .inr ⟨reason, rfl⟩

/-- A catalog of one session agrees with a request to another one that knows the same
instrument and has the same table for its model. -/
theorem agrees_of_table (session later : Session channel)
    (known : later.instrument name = session.instrument name)
    (tabled : ∀ instrument, session.instrument name = .ok instrument →
      (later.table instrument.identity.model).1 = (session.table instrument.identity.model).1)
    (request : Request) (world : World) :
    Catalog.Agrees (session.catalog name).1 request
      ((later.request name request).run world).1.1 := by
  cases found : session.instrument name with
  | error error =>
    rw [catalog, found, request_of_unknown (known.trans found)]
    refine ⟨rfl, ?_⟩
    rw [instrument] at found
    split at found <;> cases found
    exact ⟨_, rfl⟩
  | ok instrument =>
    have same := tabled instrument found
    rw [found] at known
    rw [catalog_of_known found]
    cases answer : (session.table instrument.identity.model).1 with
    | error error =>
      rw [answer] at same
      have outcome := outcome_request_of_error known same request world
      exact Catalog.foretells_unlisted (fun missing => absurd missing (Option.some_ne_none _))
        fun reason given => ⟨error, outcome, Option.some.inj given⟩
    | ok found? =>
      rw [answer] at same
      cases found? with
      | none =>
        have outcome := outcome_request_of_none known same request world
        exact Catalog.foretells_unlisted (fun _ => outcome)
          fun reason given => absurd given.symm (Option.some_ne_none _)
      | some table => exact foretells_of_table known same request world

/-- Whatever becomes of a request, it leaves the instruments and the sheets alone, and the
cache may gain the table of the instrument's model. -/
theorem frames_request (session : Session channel) (name : String) (request : Request)
    (world : World) :
    (Execution.request name request).Frames session
      ((session.request name request).run world).1.2 := by
  obtain ⟨calls, outcome, final, after, ran, -, effect⟩ :=
    (Execution.request name request).run_cases session world
  have same : ((session.request name request).run world).1.2 = final := by
    rw [show session.request name request = (Execution.request name request).perform session
      from rfl, ran]
  rw [same]
  cases effect with
  | unprepared _ frames => exact frames
  | failed _ frames => exact frames
  | taken _ frames => exact frames

/-- The catalog of an instrument and a request to it agree, in one and the same state of the
session, when the request comes after the catalog, and when the catalog comes after the
request.  The catalog fails exactly if no instrument goes by the name. -/
theorem catalog_agrees (session : Session channel) (name : String) (request : Request)
    (world : World) :
    ((∃ error, (session.catalog name).1 = .error error) ↔
      session.registry.find? name = none) ∧
    let outcome := ((session.request name request).run world).1.1
    let later := ((session.request name request).run world).1.2
    Catalog.Agrees (session.catalog name).1 request outcome ∧
    Catalog.Agrees (session.catalog name).1 request
      (((session.catalog name).2.request name request).run world).1.1 ∧
    Catalog.Agrees (later.catalog name).1 request outcome := by
  have seen := session.frames_catalog name request
  have asked := session.frames_request name request world
  have sameLater := instrument_of_frames asked
  refine ⟨session.catalog_eq_error_iff name, ?_, ?_, ?_⟩
  case refine_1 => exact agrees_of_table session session rfl (fun _ _ => rfl) request world
  case refine_2 =>
    exact agrees_of_table session _ (instrument_of_frames seen)
      (fun _ known => table_of_frames seen known) request world
  case refine_3 =>
    exact agrees_of_table _ session sameLater.symm
      (fun _ known => (table_of_frames asked (sameLater.symm.trans known)).symm) request world

end Session

end InstrumentBench
