import InstrumentBench.Proofs.Session.Audit
import Mathlib.Data.List.Forall2

/-!
# Sessions do not notice their log

Whether the commands of a session are logged, and whether the log can be written,
makes no difference to the session.  Two runs that start alike and take the same steps
are answered alike and stay alike, on any disks and with any clocks: they differ at most
in the time stamps of what they record, and those differ only as the clocks do
(`Session.interactAll_alike`, `Session.interactAll_unaudited`).
-/

namespace InstrumentBench

/-! ## The clock -/

theorem World.clock_change (world : World) (result : Except IoError Disk) :
    (world.change result).2.clock = world.clock := by
  cases result <;> rfl

/-- No question changes what the clock is going to show. -/
theorem World.clock_answer (world : World) (question : Question) :
    (world.answer question).2.clock = world.clock := by
  cases question with
  | createFile => exact world.clock_change _
  | writeFile => exact world.clock_change _
  | appendFile => exact world.clock_change _
  | rename => exact world.clock_change _
  | _ => rfl

theorem Action.clock_run {α : Type} (action : Action α) (world : World) :
    (action.run world).2.clock = world.clock := by
  induction action generalizing world with
  | done value => rfl
  | ask question next ih =>
    rw [run, ih]
    exact world.clock_answer question

/-! ## Time stamps apart -/

/-- A relation of time stamps that is kept when the later one is taken on both
sides. -/
structure Stamps (near : Nat → Nat → Prop) : Prop where
  refl : ∀ millis, near millis millis
  max : ∀ {first second other another}, near first second → near other another →
    near (max first other) (max second another)

/-- Any two time stamps. -/
theorem stamps_any : Stamps fun _ _ => True where
  refl _ := trivial
  max _ _ := trivial

/-- The same time stamp. -/
theorem stamps_eq : Stamps Eq where
  refl _ := rfl
  max same equal := by rw [same, equal]

variable {near : Nat → Nat → Prop}

/-- Whenever the clocks of two worlds are read, what they show is near each other. -/
def World.Near (near : Nat → Nat → Prop) (here there : World) : Prop :=
  ∀ reading another, near (here.clock reading) (there.clock another)

/-- It stays so, whatever else happens in the two worlds. -/
theorem World.Near.run {here there : World} (clocks : here.Near near there) {α β : Type}
    (action : Action α) (other : Action β) :
    (action.run here).2.Near near (other.run there).2 := by
  intro reading another
  rw [Action.clock_run, Action.clock_run]
  exact clocks reading another

/-- Two entries differ at most in their time stamps, which are near each other. -/
structure Entry.Near (near : Nat → Nat → Prop) (first second : Entry) : Prop where
  millis : near first.millis second.millis
  rest : { first with millis := second.millis } = second

/-- An entry without its time stamp. -/
def Entry.unstamped (entry : Entry) : Entry :=
  { entry with millis := 0 }

theorem Entry.Near.unstamped {first second : Entry} (entry : first.Near near second) :
    first.unstamped = second.unstamped := by
  rw [← entry.rest]
  rfl

theorem Entry.Near.eq {first second : Entry} (entry : first.Near Eq second) :
    first = second := by
  rw [← entry.rest, ← entry.millis]

theorem Entry.Near.refl (stamps : Stamps near) (entry : Entry) : entry.Near near entry where
  millis := stamps.refl entry.millis
  rest := rfl

namespace Recorder

/-- Two recorders differ at most in the time stamps of their entries. -/
def Near (near : Nat → Nat → Prop) (first second : Recorder) : Prop :=
  List.Forall₂ (Entry.Near near) first.entries second.entries

namespace Near

variable {first second : Recorder}

theorem refl (stamps : Stamps near) (recorder : Recorder) : recorder.Near near recorder :=
  List.forall₂_same.mpr fun entry _ => .refl stamps entry

theorem append {one other : Entry} (history : first.Near near second)
    (entry : one.Near near other) : (first.append one).Near near (second.append other) :=
  List.rel_append history (.cons entry .nil)

theorem eq (history : first.Near Eq second) : first = second := by
  have entries : first.entries = second.entries := by
    rw [← List.forall₂_eq_eq_eq]
    exact history.imp fun _ _ entry => entry.eq
  cases first
  cases second
  cases entries
  rfl

/-- The last time stamps are near each other. -/
theorem lastMillis (stamps : Stamps near) (history : first.Near near second) :
    near first.lastMillis second.lastMillis := by
  rcases first with ⟨entries⟩
  rcases second with ⟨others⟩
  have pairs : List.Forall₂ (Entry.Near near) entries others := history
  clear history
  unfold Recorder.lastMillis
  induction pairs with
  | nil => exact stamps.refl 0
  | cons entry rest ih =>
    cases rest with
    | nil => exact entry.millis
    | cons => simpa only [List.getLast?_cons_cons] using ih

/-- Entries recorded for the same command are near each other if the clocks are. -/
theorem stamped {now another : Nat} (stamps : Stamps near) (history : first.Near near second)
    (clocks : near now another) (direction : Direction) (resource text : String)
    (response : Option String) :
    (first.stamped now direction resource text response).Near near
      (second.stamped another direction resource text response) where
  millis := stamps.max clocks (history.lastMillis stamps)
  rest := rfl

/-- A script does not tell when its commands were sent. -/
theorem script (history : first.Near near second) : first.script = second.script := by
  have emitted : ∀ entries, Script.emit (entries.map Entry.unstamped) = Script.emit entries := by
    intro entries
    simp only [Script.emit, Script.lines, Script.resources, List.map_map, List.isEmpty_map]
    rfl
  have same : first.entries.map Entry.unstamped = second.entries.map Entry.unstamped := by
    rw [← List.forall₂_eq_eq_eq]
    apply List.forall₂_map_left_iff.mpr
    apply List.forall₂_map_right_iff.mpr
    exact history.imp fun _ _ entry => entry.unstamped
  rw [Recorder.script, ← emitted, same, emitted]
  rfl

end Near

end Recorder

/-! ## Steps at a session -/

/-- One step at a session: an operation, or something done with its link or its history
without it. -/
inductive Interaction where
  | perform (operation : Operation)
  | send (resource : String) (direction : Direction) (text : String)
  /-- Adds an entry as it is. -/
  | append (entry : Entry)
  /-- Adds an entry with the time that the clock shows, later or not. -/
  | appendNow (direction : Direction) (resource text : String) (response : Option String)
  | record (direction : Direction) (resource text : String) (response : Option String)
  | clear
  | history
  | script
  | auditLog

/-- What a step at a session is answered with. -/
inductive Response where
  | answer (answer : Answer)
  | reply (outcome : Except LinkError (Option String))
  | history (entries : List Entry)
  | script (script : String)
  | auditLog (lines : List String)

namespace Session

variable {channel : Type} [Scripted channel]

/-- Takes one step at a session. -/
def interact (session : Session channel) : Interaction → Action (Response × Session channel)
  | .perform operation => do
    let (answer, session) ← session.perform operation
    return (.answer answer, session)
  | .send resource direction text =>
    let (outcome, link) := Transport.send session.link resource direction text
    pure (.reply outcome, { session with link := link })
  | .append entry =>
    pure (.answer .done, { session with recorder := session.recorder.append entry })
  | .appendNow direction resource text response => do
    let now ← Action.reply .now
    let entry : Entry := ⟨now, direction, resource, text, response⟩
    return (.answer .done, { session with recorder := session.recorder.append entry })
  | .record direction resource text response => do
    let now ← Action.reply .now
    let (entry, recorder) := session.recorder.record now direction resource text response
    return (.answer (.entry entry), { session with recorder := recorder })
  | .clear => pure (.answer .done, { session with recorder := .empty })
  | .history => pure (.history session.recorder.entries, session)
  | .script => pure (.script session.recorder.script, session)
  | .auditLog => pure (.auditLog session.recorder.auditLog, session)

/-- Takes steps one after the other. -/
def interactAll (session : Session channel) :
    List Interaction → Action (List Response × Session channel)
  | [] => pure ([], session)
  | step :: rest => do
    let (response, session) ← session.interact step
    let (responses, session) ← session.interactAll rest
    return (response :: responses, session)

/-- The session with other logging: below a directory, or none at all. -/
def audited (session : Session channel) (directory : Option String) : Session channel :=
  { session with auditDirectory := directory }

end Session

/-! ## What does not differ -/

/-- Two responses differ at most in the time stamps of entries. -/
inductive Response.Near (near : Nat → Nat → Prop) : Response → Response → Prop where
  | same (response : Response) : Near near response response
  | entry {first second : Entry} (entry : first.Near near second) :
      Near near (.answer (.entry first)) (.answer (.entry second))
  | history {first second : Recorder} (history : first.Near near second) :
      Near near (.history first.entries) (.history second.entries)
  | auditLog {first second : Recorder} (history : first.Near near second) :
      Near near (.auditLog first.auditLog) (.auditLog second.auditLog)

theorem Response.Near.eq {first second : Response} (response : first.Near Eq second) :
    first = second := by
  cases response with
  | same => rfl
  | entry entry => rw [entry.eq]
  | history history => rw [history.eq]
  | auditLog history => rw [history.eq]

namespace Session

variable {channel : Type}

/-- Two sessions differ at most in their logging and in the time stamps of their
histories. -/
structure Alike (near : Nat → Nat → Prop) (first second : Session channel) : Prop where
  source : first.source = second.source
  cache : first.cache = second.cache
  registry : first.registry = second.registry
  link : first.link = second.link
  recorder : first.recorder.Near near second.recorder

/-- Two outcomes are the same, and what is left are sessions that are alike. -/
def Same {α : Type} (near : Nat → Nat → Prop) (first second : α × Session channel) : Prop :=
  ∃ answer one other, first = (answer, one) ∧ second = (answer, other) ∧ one.Alike near other

namespace Alike

variable {first second : Session channel}

theorem same {α : Type} (alike : first.Alike near second) (answer : α) :
    Same near (answer, first) (answer, second) :=
  ⟨answer, first, second, rfl, rfl, alike⟩

theorem instrument (alike : first.Alike near second) (name : String) :
    first.instrument name = second.instrument name := by
  rw [Session.instrument, Session.instrument, alike.registry]

theorem setNickname (alike : first.Alike near second) (nickname : String) (identity : Identity) :
    Same near (first.setNickname nickname identity) (second.setNickname nickname identity) := by
  rw [Session.setNickname, Session.setNickname, alike.registry]
  cases second.registry.setNickname? nickname identity with
  | none => exact alike.same _
  | some registry =>
    apply same
    exact { alike with registry := rfl }

theorem table (alike : first.Alike near second) (model : String) :
    Same near (first.table model) (second.table model) := by
  rw [Session.table, Session.table, alike.cache, alike.source]
  rcases second.cache.load second.source model with ⟨answer, cache⟩
  apply same
  exact { alike with source := rfl, cache := rfl }

theorem catalogOf (alike : first.Alike near second) (model : String) :
    Same near (first.catalogOf model) (second.catalogOf model) := by
  obtain ⟨answer, one, other, looked, again, later⟩ := alike.table model
  rw [Session.catalogOf, Session.catalogOf, looked, again]
  rcases answer with error | none | table
  case error => exact later.same _
  case ok.none => exact later.same _
  case ok.some => exact later.same _

theorem catalog (alike : first.Alike near second) (name : String) :
    Same near (first.catalog name) (second.catalog name) := by
  rw [Session.catalog, Session.catalog, alike.instrument]
  cases second.instrument name with
  | error error => exact alike.same _
  | ok instrument =>
    obtain ⟨catalog, one, other, shown, again, later⟩ := alike.catalogOf instrument.identity.model
    dsimp only
    rw [shown, again]
    exact later.same _

/-- Preparing a command is the same. -/
theorem rendering (alike : first.Alike near second) (execution : Execution)
    (instrument : Instrument) :
    Same near (execution.rendering first instrument) (execution.rendering second instrument) := by
  have requested : ∀ request, Same near (first.rendering instrument request)
      (second.rendering instrument request) := by
    intro request
    obtain ⟨answer, one, other, looked, again, later⟩ := alike.table instrument.identity.model
    rw [Session.rendering, Session.rendering, looked, again]
    rcases answer with error | none | table
    case error => exact later.same _
    case ok.none => exact later.same _
    case ok.some =>
      dsimp only
      cases table.find? request.command with
      | none => exact later.same _
      | some definition => exact later.same _
  cases execution with
  | execute name command values => exact requested _
  | request name asked => exact requested asked
  | sendTyped name text => exact alike.same _

variable [Transport channel]

theorem identify (alike : first.Alike near second) (resource : String) :
    Same near (first.identify resource) (second.identify resource) := by
  rw [Session.identify, Session.identify, alike.registry, alike.link]
  rcases second.registry.identify second.link resource with ⟨answer, registry, link⟩
  apply same
  exact { alike with registry := rfl, link := rfl }

end Alike

/-- Two steps are answered alike, and what is left are sessions that are alike. -/
structure Agree (near : Nat → Nat → Prop) (first second : Response × Session channel) : Prop where
  response : first.1.Near near second.1
  session : first.2.Alike near second.2

/-- Two runs are answered alike, and what is left are sessions that are alike. -/
structure AllAgree (near : Nat → Nat → Prop) (first second : List Response × Session channel) :
    Prop where
  responses : List.Forall₂ (Response.Near near) first.1 second.1
  session : first.2.Alike near second.2

/-- The outcome of an execution, as the answer to an operation. -/
def executed (outcome : Except SessionError Entry × Session channel) : Answer × Session channel :=
  (.of .entry outcome.1, outcome.2)

/-- The answer to an operation, as the response to a step. -/
def answered (answer : Answer × Session channel) : Response × Session channel :=
  (.answer answer.1, answer.2)

theorem Same.agree {α : Type} {first second : α × Session channel} (same : Same near first second)
    (response : α → Response) :
    Agree near (response first.1, first.2) (response second.1, second.2) := by
  obtain ⟨answer, one, other, rfl, rfl, alike⟩ := same
  exact ⟨.same _, alike⟩

section Runs

variable [Scripted channel]

/-- What is left of a command that the link fails to bring to its instrument, whatever
is logged of it. -/
theorem fst_run_deliver_of_error {session : Session channel} {resource : String}
    {rendered : Rendered} {error : LinkError} {link : channel}
    (sent : Transport.send session.link resource rendered.direction rendered.text =
      (.error error, link)) (world : World) :
    ((session.deliver resource rendered).run world).1 =
      (.error (.link error), { session with link := link }) := by
  rw [deliver, sent]
  dsimp only
  rw [Action.run_bind, Action.run_pure]

/-- What is left of a command that its instrument takes, whatever is logged of it: an
entry with some time that the clock shows. -/
theorem fst_run_deliver_of_ok {session : Session channel} {resource : String}
    {rendered : Rendered} {reply : Option String} {link : channel}
    (sent : Transport.send session.link resource rendered.direction rendered.text =
      (.ok reply, link)) (world : World) :
    ∃ reading, ((session.deliver resource rendered).run world).1 =
      let entry := session.recorder.stamped (world.clock reading) rendered.direction resource
        rendered.text (reply.map withoutLineEnds)
      (.ok entry, { session with link := link, recorder := session.recorder.append entry }) := by
  rw [deliver, sent]
  dsimp only
  rw [Action.run_bind, Action.run_bind, Action.run_reply, Action.run_pure]
  have same := Action.clock_run
    (session.log resource rendered (.ok (reply.map withoutLineEnds))) world
  use ((session.log resource rendered (.ok (reply.map withoutLineEnds))).run world).2.readings
  rw [← same]
  rfl

variable {first second : Session channel} {here there : World}

/-- Delivering a command is answered alike. -/
theorem deliver_agree (stamps : Stamps near) (alike : first.Alike near second)
    (clocks : here.Near near there) (resource : String) (rendered : Rendered) :
    Agree near (answered (executed ((first.deliver resource rendered).run here).1))
      (answered (executed ((second.deliver resource rendered).run there).1)) := by
  rcases sent : Transport.send second.link resource rendered.direction rendered.text with
    ⟨error | reply, link⟩
  case error =>
    rw [fst_run_deliver_of_error sent]
    rw [← alike.link] at sent
    rw [fst_run_deliver_of_error sent]
    exact ⟨.same _, { alike with link := rfl }⟩
  case ok =>
    obtain ⟨another, delivered⟩ := fst_run_deliver_of_ok sent there
    rw [← alike.link] at sent
    obtain ⟨reading, taken⟩ := fst_run_deliver_of_ok sent here
    rw [delivered, taken]
    have entry := alike.recorder.stamped stamps (clocks reading another) rendered.direction
      resource rendered.text (reply.map withoutLineEnds)
    exact ⟨.entry entry, { alike with link := rfl, recorder := alike.recorder.append entry }⟩

/-- Executing a command is answered alike. -/
theorem execution_agree (stamps : Stamps near) (alike : first.Alike near second)
    (clocks : here.Near near there) (execution : Execution) :
    Agree near (answered (executed ((execution.perform first).run here).1))
      (answered (executed ((execution.perform second).run there).1)) := by
  rw [Execution.perform_eq, Execution.perform_eq, alike.instrument]
  cases second.instrument execution.name with
  | error error => exact ⟨.same _, alike⟩
  | ok instrument =>
    obtain ⟨outcome, one, other, rendering, again, later⟩ := alike.rendering execution instrument
    dsimp only
    rw [rendering, again]
    cases outcome with
    | error error => exact ⟨.same _, later⟩
    | ok rendered => exact deliver_agree stamps later clocks instrument.resource rendered

/-- Every operation is answered alike. -/
theorem perform_agree (stamps : Stamps near) (alike : first.Alike near second)
    (clocks : here.Near near there) (operation : Operation) :
    Agree near (answered ((first.perform operation).run here).1)
      (answered ((second.perform operation).run there).1) := by
  have performed : ∀ execution, operation.execution? = some execution →
      Agree near (answered ((first.perform operation).run here).1)
        (answered ((second.perform operation).run there).1) := by
    intro execution executes
    rw [run_perform_execution executes, run_perform_execution executes]
    exact execution_agree stamps alike clocks execution
  cases operation with
  | execute => exact performed _ rfl
  | request => exact performed _ rfl
  | sendTyped => exact performed _ rfl
  | identify resource =>
    exact (alike.identify resource).agree fun outcome => .answer (.of .instrument outcome)
  | setNickname nickname identity =>
    exact (alike.setNickname nickname identity).agree fun outcome =>
      .answer (.of (fun _ => .done) outcome)
  | catalog name =>
    exact (alike.catalog name).agree fun outcome => .answer (.of .catalog outcome)
  | table model =>
    exact (alike.table model).agree fun outcome =>
      .answer (.of .table (outcome.mapError .descriptor))
  | register instrument =>
    constructor
    · exact .same _
    · exact { alike with registry := congrArg (·.register instrument) alike.registry }
  | reload =>
    constructor
    · exact .same _
    · exact { alike with cache := congrArg TableCache.clear alike.cache }
  | replaceSource source =>
    constructor
    · exact .same _
    · exact { alike with source := rfl }
  | respond command response =>
    constructor
    · exact .same _
    · exact { alike with link := congrArg (Scripted.respond · command response) alike.link }
  | refuse resource =>
    constructor
    · exact .same _
    · exact { alike with link := congrArg (Scripted.refuse · resource) alike.link }

/-- Every step is answered alike. -/
theorem interact_agree (stamps : Stamps near) (alike : first.Alike near second)
    (clocks : here.Near near there) (step : Interaction) :
    Agree near ((first.interact step).run here).1 ((second.interact step).run there).1 := by
  cases step with
  | perform operation =>
    rw [interact, interact, Action.run_bind, Action.run_bind]
    exact perform_agree stamps alike clocks operation
  | send resource direction text =>
    rw [interact, interact, alike.link]
    constructor
    · exact .same _
    · exact { alike with link := rfl }
  | append entry =>
    constructor
    · exact .same _
    · exact { alike with recorder := alike.recorder.append (.refl stamps entry) }
  | appendNow direction resource text response =>
    have entry : Entry.Near near ⟨here.clock here.readings, direction, resource, text, response⟩
        ⟨there.clock there.readings, direction, resource, text, response⟩ := ⟨clocks _ _, rfl⟩
    constructor
    · exact .same _
    · exact { alike with recorder := alike.recorder.append entry }
  | record direction resource text response =>
    have entry := alike.recorder.stamped stamps (clocks here.readings there.readings) direction
      resource text response
    constructor
    · exact .entry entry
    · exact { alike with recorder := alike.recorder.append entry }
  | clear =>
    constructor
    · exact .same _
    · exact { alike with recorder := .refl stamps .empty }
  | history => exact ⟨.history alike.recorder, alike⟩
  | script =>
    constructor
    · change Response.Near near (.script first.recorder.script) (.script second.recorder.script)
      rw [alike.recorder.script]
      exact .same _
    · exact alike
  | auditLog => exact ⟨.auditLog alike.recorder, alike⟩

/-- All steps of a run are answered alike. -/
theorem interactAll_alike (stamps : Stamps near) (alike : first.Alike near second)
    (clocks : here.Near near there) (steps : List Interaction) :
    AllAgree near ((first.interactAll steps).run here).1
      ((second.interactAll steps).run there).1 := by
  induction steps generalizing first second here there with
  | nil => exact ⟨.nil, alike⟩
  | cons step rest ih =>
    have agree := interact_agree stamps alike clocks step
    have later := ih agree.session (clocks.run (first.interact step) (second.interact step))
    simp only [interactAll, Action.run_bind, Action.run_pure]
    exact ⟨.cons agree.response later.responses, later.session⟩

end Runs

/-- A session with other logging is the same apart from it. -/
theorem Alike.audited (stamps : Stamps near) (session : Session channel)
    (setting another : Option String) :
    (session.audited setting).Alike near (session.audited another) where
  source := rfl
  cache := rfl
  registry := rfl
  link := rfl
  recorder := .refl stamps session.recorder

theorem Alike.eq {first second : Session channel} (alike : first.Alike Eq second) :
    first.audited none = second.audited none := by
  rcases first with ⟨source, cache, registry, recorder, link, setting⟩
  rcases second with ⟨_, _, _, _, _, another⟩
  obtain ⟨rfl, rfl, rfl, rfl, history⟩ := alike
  cases history.eq
  rfl

/-- Logging goes unnoticed.  Whether there is a log, where it is and whether it can be
written, what else is on the disks and what the clocks show: each step of a run is
answered the same, and the descriptors, the cache, the registry, the link and the history
come out the same, time stamps apart.  If the clocks stand still at the same time, the
time stamps are the same, too. -/
theorem interactAll_unaudited [Scripted channel] (session : Session channel)
    (steps : List Interaction) (setting another : Option String) (here there : World) :
    let one := (((session.audited setting).interactAll steps).run here).1
    let other := (((session.audited another).interactAll steps).run there).1
    AllAgree (fun _ _ => True) one other ∧
      (here.Near Eq there →
        one.1 = other.1 ∧ one.2.audited none = other.2.audited none) := by
  intro one other
  constructor
  · exact interactAll_alike stamps_any (.audited stamps_any session setting another)
      (fun _ _ => trivial) steps
  · intro clocks
    have agree : AllAgree Eq one other :=
      interactAll_alike stamps_eq (.audited stamps_eq session setting another) clocks steps
    constructor
    · rw [← List.forall₂_eq_eq_eq]
      exact agree.responses.imp fun _ _ response => response.eq
    · exact agree.session.eq

end Session

/-- A world with a file in place of the directory below which commands are to be
logged. -/
def World.blocked : World := ⟨⟨[], [(["cfg"], .file "x".toUTF8)]⟩, fun _ => 0, 0⟩

/-- A setting that is sent without a log, with a log that can be written and with one
that cannot. -/
theorem Session.interactAll_unaudited_blocked :
    let steps : List Interaction :=
      [.perform (.identify "R"), .perform (.sendTyped "R" "*RST"), .history]
    let silent := (((logged.audited none).interactAll steps).run .bare).1
    let written := (((logged.audited (some "cfg")).interactAll steps).run .bare).1
    let refused := (((logged.audited (some "cfg")).interactAll steps).run .blocked).1
    CommandLog.Writable "cfg" ["cfg", "command-logs"] .bare ∧
      (World.blocked.disk.makeDirectories (Configuration.logDirectory "cfg")).1 =
        .error .notADirectory ∧
      World.bare.Near Eq .blocked ∧
      silent.1 = written.1 ∧ silent.1 = refused.1 ∧
      silent.2.audited none = written.2.audited none ∧
      silent.2.audited none = refused.2.audited none := by
  intro steps silent written refused
  obtain ⟨-, bare⟩ := interactAll_unaudited logged steps none (some "cfg") .bare .bare
  obtain ⟨-, blocked⟩ := interactAll_unaudited logged steps none (some "cfg") .bare .blocked
  have still : World.bare.Near Eq .blocked := fun _ _ => rfl
  obtain ⟨answers, session⟩ := bare fun _ _ => rfl
  obtain ⟨others, another⟩ := blocked still
  exact ⟨CommandLog.writable_bare, by decide, still, answers, others, session, another⟩

end InstrumentBench
