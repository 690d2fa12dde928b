import InstrumentBench.Proofs.Script.RoundTrip
import InstrumentBench.Proofs.Session.Execution

/-!
# The history of a run

A run of a session over the loopback link keeps three logs: what the link was sent, the
entries recorded, and the script that replays them.  The record is the log of the link
without the queries for identities and without the queries that were not answered, and
the script replays the record.

`perform_accounted` accounts for one operation and `performAll_accounted` for a run.
-/

namespace InstrumentBench

/-- What an entry says was sent. -/
def Entry.sent (entry : Entry) : Sent :=
  ⟨entry.resource, entry.direction, entry.text⟩

/-- The entry of a command that was executed with success. -/
def Answer.recorded? : Answer → Option Entry
  | .entry taken => some taken
  | _ => none

theorem Answer.recorded?_of {α : Type} {answer : α → Answer}
    (unrecorded : ∀ value, (answer value).recorded? = none) (outcome : Except SessionError α) :
    (Answer.of answer outcome).recorded? = none := by
  cases outcome with
  | ok value => exact unrecorded value
  | error => rfl

/-- One operation of a run: its answer, and what the link logged meanwhile. -/
structure Turn where
  operation : Operation
  answer : Answer
  sent : List Sent

namespace Turn

/-- Whether what the link logged is not recorded: the operation asked for an identity,
or a query was not answered. -/
def discarded (turn : Turn) : Bool :=
  match turn.operation, turn.answer with
  | .identify _, _ => true
  | _, .failed (.link (.noResponse ..)) => true
  | _, _ => false

/-- What the link may log in one turn: nothing, a query for an identity, a query that is
not answered, or the command of the entry that is the answer. -/
inductive Accounted : Turn → Prop where
  | silent {operation : Operation} {answer : Answer} (unrecorded : answer.recorded? = none) :
      Accounted ⟨operation, answer, []⟩
  | identity {resource : String} {answer : Answer} (unrecorded : answer.recorded? = none) :
      Accounted ⟨.identify resource, answer, [⟨resource, .get, identityQuery⟩]⟩
  | unanswered {operation : Operation} {resource text : String}
      (executes : operation.execution?.isSome) :
      Accounted ⟨operation, .failed (.link (.noResponse resource text)), [⟨resource, .get, text⟩]⟩
  | executed {operation : Operation} {entry : Entry} (executes : operation.execution?.isSome) :
      Accounted ⟨operation, .entry entry, [entry.sent]⟩

/-- What is not discarded is what the entry of the answer says. -/
theorem Accounted.kept {turn : Turn} (accounted : turn.Accounted) :
    (if turn.discarded then [] else turn.sent) = turn.answer.recorded?.toList.map Entry.sent := by
  cases accounted with
  | silent unrecorded => simp [unrecorded]
  | identity unrecorded => simp [discarded, unrecorded]
  | @unanswered operation resource text executes =>
    have discarded : discarded ⟨operation, .failed (.link (.noResponse resource text)),
        [⟨resource, .get, text⟩]⟩ := by cases operation <;> rfl
    rw [if_pos discarded]
    rfl
  | @executed operation entry executes =>
    have kept : ¬discarded ⟨operation, .entry entry, [entry.sent]⟩ := by
      cases operation <;> first | exact Bool.false_ne_true | cases executes
    rw [if_neg kept]
    rfl

/-- What is not discarded in the turns of a run is what the entries of the answers say. -/
theorem flatMap_kept {turns : List Turn} (accounted : ∀ turn ∈ turns, turn.Accounted) :
    (turns.filter (!·.discarded)).flatMap Turn.sent =
      ((turns.map Turn.answer).filterMap Answer.recorded?).map Entry.sent := by
  induction turns with
  | nil => rfl
  | cons turn turns ih =>
    have kept := (accounted turn List.mem_cons_self).kept
    have later := ih fun other member => accounted other (List.mem_cons_of_mem turn member)
    rw [List.map_cons, List.filterMap_eq_flatMap_toList, List.flatMap_cons, List.map_append,
      ← kept, ← List.filterMap_eq_flatMap_toList, ← later, List.filter_cons]
    cases turn.discarded <;> rfl

end Turn

theorem Execution.Answers.sent_eq {channel : Type} [Transport channel] {before after : channel}
    {call : Sent} {entry : Entry} (answers : Answers before after call entry) :
    entry.sent = call := by
  rw [Entry.sent, answers.resource, answers.direction, answers.text]

/-- What an instrument takes is logged, and its entry says the same. -/
theorem Link.sent_of_answers {before after : Link} {call : Sent} {entry : Entry}
    (answers : Execution.Answers before after call entry) :
    after.sent = before.sent ++ [entry.sent] := by
  have response := answers.response
  rw [answers.sent_eq]
  rcases call with ⟨resource, _ | _, text⟩
  case get =>
    obtain ⟨reply, _, asked, -⟩ := response
    have queried : before.query resource text = (.ok reply, after) := asked
    rcases before.query_cases resource text with refused | ⟨_, _, answered, logged, -⟩
    · cases queried.symm.trans refused
    · cases queried.symm.trans answered
      exact logged
  case set =>
    have written : before.write resource text = (.ok (), after) := response.1
    rcases before.write_cases resource text with refused | ⟨_, accepted, logged⟩
    · cases written.symm.trans refused
    · cases written.symm.trans accepted
      exact logged

namespace Session

/-- The turns of a run, first to last. -/
def turns (session : Session) (world : World) : List Operation → List Turn
  | [] => []
  | operation :: rest =>
    let ((answer, next), after) := (session.perform operation).run world
    ⟨operation, answer, next.link.sent.drop session.link.sent.length⟩ :: next.turns after rest

/-- Between two sessions the link has logged something and entries were recorded. -/
structure Advances (session next : Session) (sent : List Sent) (entries : List Entry) :
    Prop where
  link : next.link.sent = session.link.sent ++ sent
  recorder : next.recorder.entries = session.recorder.entries ++ entries

theorem Advances.of_eq {session next : Session} (link : next.link.sent = session.link.sent)
    (recorder : next.recorder = session.recorder) : session.Advances next [] [] :=
  ⟨by rw [link, List.append_nil], by rw [recorder, List.append_nil]⟩

theorem Advances.trans {session next final : Session} {sent later : List Sent}
    {entries others : List Entry} (first : session.Advances next sent entries)
    (second : next.Advances final later others) :
    session.Advances final (sent ++ later) (entries ++ others) :=
  ⟨by rw [second.link, first.link, List.append_assoc],
    by rw [second.recorder, first.recorder, List.append_assoc]⟩

/-- Looking at a catalog leaves the link and the record alone. -/
theorem advances_catalog (session : Session) (name : String) :
    session.Advances (session.catalog name).2 [] [] := by
  rw [catalog]
  cases session.instrument name with
  | error => exact .of_eq rfl rfl
  | ok instrument =>
    dsimp only
    rw [catalogOf_snd, table_snd]
    exact .of_eq rfl rfl

/-- Asking for an identity records nothing, and the link may log the query. -/
theorem identify_advances (session : Session) (resource : String) :
    ∃ sent, session.Advances (session.identify resource).2 sent [] ∧
      (sent = [] ∨ sent = [⟨resource, .get, identityQuery⟩]) := by
  have asked : ∃ outcome after, Transport.query session.link resource identityQuery =
      (outcome, after) ∧ ∃ sent, after.sent = session.link.sent ++ sent ∧
        (sent = [] ∨ sent = [⟨resource, .get, identityQuery⟩]) := by
    rcases session.link.query_cases resource identityQuery with
      refused | ⟨outcome, after, queried, logged, -⟩
    · exact ⟨_, _, refused, [], by simp, .inl rfl⟩
    · exact ⟨_, _, queried, _, logged, .inr rfl⟩
  obtain ⟨outcome, after, queried, sent, logged, which⟩ := asked
  refine ⟨sent, ?_, which⟩
  rw [identify, Registry.identify, queried]
  rcases outcome with _ | response
  case error => exact ⟨logged, (List.append_nil _).symm⟩
  case ok =>
    dsimp only
    cases Identity.read? response <;> exact ⟨logged, (List.append_nil _).symm⟩

/-- An execution is accounted for. -/
theorem execution_accounted {operation : Operation} {execution : Execution}
    (executes : operation.execution? = some execution) (session : Session) (world : World) :
    ∃ answer next after sent,
      (session.perform operation).run world = ((answer, next), after) ∧
      session.Advances next sent answer.recorded?.toList ∧
      Turn.Accounted ⟨operation, answer, sent⟩ := by
  have executed : operation.execution?.isSome := by rw [executes]; rfl
  obtain ⟨calls, outcome, next, after, ran, -, effect⟩ := execution.run_cases session world
  refine ⟨.of .entry outcome, next, after, ?_⟩
  rw [run_perform_execution executes, ran]
  cases effect with
  | unprepared other frames link recorder =>
    exact ⟨[], rfl, .of_eq (congrArg Link.sent link) recorder, .silent rfl⟩
  | failed calls frames sent recorder confined =>
    rcases Link.send_error_cases sent with ⟨rfl, same⟩ | ⟨rfl, -, logged⟩
    · exact ⟨[], rfl, .of_eq (congrArg Link.sent same) recorder, .silent rfl⟩
    · exact ⟨_, rfl, ⟨logged, by rw [recorder]; exact (List.append_nil _).symm⟩,
        .unanswered executed⟩
  | taken calls frames answers recorder confined =>
    exact ⟨_, rfl, ⟨Link.sent_of_answers answers, recorder⟩, .executed executed⟩

/-- An operation that records nothing is accounted for if the link has logged nothing
else than it may. -/
theorem accounted_of_unrecorded {session next : Session} {operation : Operation} {α : Type}
    {answer : α → Answer} {outcome : Except SessionError α} {sent : List Sent}
    (performs : session.perform operation = pure (.of answer outcome, next))
    (advances : session.Advances next sent [])
    (unrecorded : ∀ value, (answer value).recorded? = none)
    (accounted : ∀ {answer : Answer}, answer.recorded? = none →
      Turn.Accounted ⟨operation, answer, sent⟩) (world : World) :
    ∃ answer next after sent,
      (session.perform operation).run world = ((answer, next), after) ∧
      session.Advances next sent answer.recorded?.toList ∧
      Turn.Accounted ⟨operation, answer, sent⟩ := by
  have silent := Answer.recorded?_of unrecorded outcome
  refine ⟨.of answer outcome, next, world, sent, ?_, ?_, accounted silent⟩
  case refine_1 => rw [performs, Action.run_pure]
  case refine_2 => rwa [silent]

/-- One operation is accounted for. -/
theorem perform_accounted (session : Session) (operation : Operation) (world : World) :
    ∃ answer next after sent,
      (session.perform operation).run world = ((answer, next), after) ∧
      session.Advances next sent answer.recorded?.toList ∧
      Turn.Accounted ⟨operation, answer, sent⟩ := by
  cases operation with
  | execute => exact session.execution_accounted rfl world
  | request => exact session.execution_accounted rfl world
  | sendTyped => exact session.execution_accounted rfl world
  | identify resource =>
    obtain ⟨sent, advances, rfl | rfl⟩ := session.identify_advances resource
    case inl => exact accounted_of_unrecorded rfl advances (fun _ => rfl) .silent world
    case inr => exact accounted_of_unrecorded rfl advances (fun _ => rfl) .identity world
  | setNickname nickname identity =>
    have advances : session.Advances (session.setNickname nickname identity).2 [] [] := by
      rw [setNickname]
      cases session.registry.setNickname? nickname identity <;> exact .of_eq rfl rfl
    exact accounted_of_unrecorded rfl advances (fun _ => rfl) .silent world
  | catalog name =>
    exact accounted_of_unrecorded rfl (session.advances_catalog name) (fun _ => rfl) .silent world
  | table model =>
    have advances : session.Advances (session.table model).2 [] [] := by
      rw [table_snd]
      exact .of_eq rfl rfl
    exact accounted_of_unrecorded rfl advances (fun _ => rfl) .silent world
  | register => exact ⟨_, _, _, [], rfl, .of_eq rfl rfl, .silent rfl⟩
  | reload => exact ⟨_, _, _, [], rfl, .of_eq rfl rfl, .silent rfl⟩
  | replaceSource => exact ⟨_, _, _, [], rfl, .of_eq rfl rfl, .silent rfl⟩
  | respond => exact ⟨_, _, _, [], rfl, .of_eq rfl rfl, .silent rfl⟩
  | refuse => exact ⟨_, _, _, [], rfl, .of_eq rfl rfl, .silent rfl⟩

theorem turns_cons {session next : Session} {world after : World} {operation : Operation}
    {answer : Answer} {sent : List Sent} {entries : List Entry}
    (ran : (session.perform operation).run world = ((answer, next), after))
    (advances : session.Advances next sent entries) (rest : List Operation) :
    session.turns world (operation :: rest) =
      ⟨operation, answer, sent⟩ :: next.turns after rest := by
  rw [turns, ran]
  dsimp only
  rw [advances.link, List.drop_left]

/-- All operations of a run are accounted for. -/
theorem performAll_accounted (session : Session) (operations : List Operation) (world : World) :
    ∃ answers final after,
      (session.performAll operations).run world = ((answers, final), after) ∧
      (session.turns world operations).map Turn.operation = operations ∧
      (session.turns world operations).map Turn.answer = answers ∧
      (∀ turn ∈ session.turns world operations, turn.Accounted) ∧
      session.Advances final ((session.turns world operations).flatMap Turn.sent)
        (answers.filterMap Answer.recorded?) := by
  induction operations generalizing session world with
  | nil =>
    rw [turns]
    exact ⟨[], session, world, rfl, rfl, rfl, List.forall_mem_nil _, .of_eq rfl rfl⟩
  | cons operation rest ih =>
    obtain ⟨answer, next, middle, sent, ran, advances, accounted⟩ :=
      session.perform_accounted operation world
    obtain ⟨answers, final, after, ranRest, operations, same, restAccounted, restAdvances⟩ :=
      ih next middle
    rw [turns_cons ran advances]
    refine ⟨answer :: answers, final, after, ?_, ?_, ?_, ?_, ?_⟩
    case refine_1 =>
      rw [performAll, Action.run_bind, ran]
      dsimp only
      rw [Action.run_bind, ranRest, Action.run_pure]
    case refine_2 => rw [List.map_cons, operations]
    case refine_3 => rw [List.map_cons, same]
    case refine_4 => exact List.forall_mem_cons.2 ⟨accounted, restAccounted⟩
    case refine_5 =>
      rw [List.flatMap_cons, List.filterMap_eq_flatMap_toList, List.flatMap_cons,
        ← List.filterMap_eq_flatMap_toList]
      exact advances.trans restAdvances

/-- After a run the record says of the commands sent, in order, what the log of the link
says without the queries for identities and without the unanswered queries.  It has the
entries that the operations were answered with, and its script replays exactly these. -/
theorem performAll_history (session : Session) (operations : List Operation) (world : World) :
    ∃ answers final after,
      (session.performAll operations).run world = ((answers, final), after) ∧
      let turns := session.turns world operations
      turns.map Turn.operation = operations ∧
      turns.map Turn.answer = answers ∧
      (∀ turn ∈ turns, turn.Accounted) ∧
      final.link.sent = session.link.sent ++ turns.flatMap Turn.sent ∧
      final.recorder.entries.map Entry.sent = session.recorder.entries.map Entry.sent ++
        (turns.filter (!·.discarded)).flatMap Turn.sent ∧
      final.recorder.entries = session.recorder.entries ++ answers.filterMap Answer.recorded? ∧
      Script.read final.recorder.script =
        .ok ((session.recorder.entries ++ answers.filterMap Answer.recorded?).map Entry.step) := by
  obtain ⟨answers, final, after, ran, performed, answered, accounted, advances⟩ :=
    session.performAll_accounted operations world
  refine ⟨answers, final, after, ran, performed, answered, accounted, advances.link, ?_,
    advances.recorder, ?_⟩
  case refine_1 =>
    rw [advances.recorder, List.map_append, Turn.flatMap_kept accounted, answered]
  case refine_2 =>
    rw [← advances.recorder, Recorder.script, Script.read, Script.fields_emit,
      Script.readFrom_lines]

end Session

end InstrumentBench
