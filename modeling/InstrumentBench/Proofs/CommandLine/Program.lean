import InstrumentBench.CommandLine.Tasks
import InstrumentBench.Proofs.Storage.Faults
import Mathlib.Tactic.Common

/-!
# Running programs

What a program comes to, from what has been written so far and a world: a value or a
failure, what has been written then, and another world.  There is one lemma for each way to
put a program together, and for some of them one for a machine that may fail (`mayRun_bind`).  A
run of the command line exits with 0 exactly if its task comes to a value (`exitCode_run`).
-/

namespace InstrumentBench.CommandLine

namespace Program

variable {α β ε : Type}

theorem run_act (action : Action α) (output : Output) :
    (act action).run.run output =
      (action >>= fun value => pure (value, output)) >>= fun step =>
        pure (Except.ok step.1, step.2) := rfl

theorem run_bind (program : Program α) (next : α → Program β) (output : Output) :
    (program >>= next).run.run output =
      program.run.run output >>= fun outcome =>
        (ExceptT.bindCont next outcome.1).run outcome.2 := rfl

/-- What a program comes to. -/
def result (program : Program α) (output : Output) (world : World) :
    (Except Failure α × Output) × World :=
  (program.run.run output).run world

variable {output : Output} {world : World}

theorem result_pure (value : α) :
    (pure value : Program α).result output world = ((.ok value, output), world) := rfl

theorem result_throw (failure : Failure) :
    (throw failure : Program α).result output world = ((.error failure, output), world) := rfl

theorem result_print (line : String) :
    (print line).result output world =
      ((.ok (), { output with standard := output.standard ++ line ++ "\n" }), world) := rfl

theorem result_note (line : String) :
    (note line).result output world =
      ((.ok (), { output with error := output.error ++ line ++ "\n" }), world) := rfl

theorem result_act (action : Action α) :
    (act action).result output world =
      ((.ok (action.run world).1, output), (action.run world).2) := by
  rw [result, run_act, Action.run_bind, Action.run_bind]
  rfl

theorem result_bind (program : Program α) (next : α → Program β) :
    (program >>= next).result output world =
      match program.result output world with
      | ((.ok value, written), after) => (next value).result written after
      | ((.error failure, written), after) => ((.error failure, written), after) := by
  rw [result, run_bind, Action.run_bind, result]
  rcases (program.run.run output).run world with ⟨⟨_ | _, written⟩, after⟩ <;> rfl

section Values

variable {program : Program α} {next : α → Program β} {value : α} {result : β}
  {written : Output} {after : World}

/-- Two programs come to a value if the first does and the second goes on from there. -/
theorem result_bind_eq_ok :
    (program >>= next).result output world = ((.ok result, written), after) ↔
      ∃ value middle between, program.result output world = ((.ok value, middle), between) ∧
        (next value).result middle between = ((.ok result, written), after) := by
  rw [result_bind]
  rcases program.result output world with ⟨⟨failure | value, middle⟩, between⟩
  case error => simp
  case ok =>
    constructor
    · intro ran
      exact ⟨value, middle, between, rfl, ran⟩
    · rintro ⟨_, _, _, ⟨⟩, ran⟩
      exact ran

theorem result_pure_eq_ok {given : α} :
    (pure given : Program α).result output world = ((.ok value, written), after) ↔
      given = value ∧ output = written ∧ world = after := by
  rw [result_pure]
  simp only [Prod.mk.injEq, Except.ok.injEq, and_assoc]

theorem result_check_eq_ok {failure : ε → Failure} {outcome : Except ε α} :
    (check failure outcome).result output world = ((.ok value, written), after) ↔
      outcome = .ok value ∧ output = written ∧ world = after := by
  cases outcome with
  | error error => simp [check, result_throw]
  | ok given => rw [check, result_pure_eq_ok, Except.ok.injEq]

end Values

/-- An action that may fail writes nothing. -/
theorem result_attempt (failure : ε → Failure) (action : Attempt ε α) :
    (attempt failure action).result output world =
      (((action.run.run world).1.mapError failure, output), (action.run.run world).2) := by
  rw [attempt, result_bind, result_act]
  dsimp only
  cases (action.run.run world).1 <;> rfl

section Faults

variable {after : World} {trace : List (Sigma Question.Reply)}

/-! On a machine that may fail, a program may come to several things. -/

theorem mayRun_bind {program : Program α} {next : α → Program β}
    {outcome : Except Failure β × Output}
    (run : ((program >>= next).run.run output).MayRun world trace outcome after) :
    ∃ early late first middle, (program.run.run output).MayRun world early first middle ∧
      ((ExceptT.bindCont next first.1).run first.2).MayRun middle late outcome after := by
  rw [run_bind] at run
  obtain ⟨early, late, first, middle, -, left, right⟩ := run.of_bind
  exact ⟨early, late, first, middle, left, right⟩

theorem mayRun_act {action : Action α} {outcome : Except Failure α × Output}
    (run : ((act action).run.run output).MayRun world trace outcome after) :
    ∃ early value, action.MayRun world early value after ∧ outcome = (.ok value, output) := by
  rw [run_act] at run
  obtain ⟨_, _, written, between, -, run, last⟩ := run.of_bind
  obtain ⟨early, _, value, middle, -, run, lifted⟩ := run.of_bind
  obtain ⟨rfl, rfl⟩ := lifted.of_pure
  obtain ⟨rfl, rfl⟩ := last.of_pure
  exact ⟨early, value, run, rfl⟩

theorem mayRun_attempt {failure : ε → Failure} {action : Attempt ε α}
    {outcome : Except Failure α × Output}
    (run : ((attempt failure action).run.run output).MayRun world trace outcome after) :
    ∃ early result, action.run.MayRun world early result after ∧
      outcome = (result.mapError failure, output) := by
  obtain ⟨_, _, first, middle, acted, checked⟩ := mayRun_bind run
  obtain ⟨early, result, run, rfl⟩ := mayRun_act acted
  cases result with
  | error error =>
    obtain ⟨rfl, rfl⟩ := checked.of_pure
    exact ⟨early, _, run, rfl⟩
  | ok value =>
    obtain ⟨rfl, rfl⟩ := checked.of_pure
    exact ⟨early, _, run, rfl⟩

end Faults

end Program

/-- What has been written after warnings were told. -/
def Output.warned (output : Output) (warnings : List LoadWarning) : Output :=
  warnings.foldl (fun output warning =>
    { output with error := output.error ++ ("warning: " ++ warning.message) ++ "\n" }) output

theorem Output.standard_warned (output : Output) (warnings : List LoadWarning) :
    (output.warned warnings).standard = output.standard := by
  induction warnings generalizing output with
  | nil => rfl
  | cons warning rest ih => exact ih _

open Program

section Tables

variable {output written : Output} {world after : World} {workbook : Workbook} {model : String}
  {table : Table} {command : String} {definition : Definition}

theorem result_forM_warnings (warnings : List LoadWarning) :
    Program.result (warnings.forM fun warning => .note ("warning: " ++ warning.message)) output
      world = ((.ok (), output.warned warnings), world) := by
  induction warnings generalizing output with
  | nil => rfl
  | cons warning rest ih =>
    rw [List.forM_eq_forM, List.forM_cons, result_bind, result_note]
    exact ih

/-- Looking for a table comes to the one that there is, and its warnings are told. -/
theorem result_findTable_eq_ok :
    (findTable workbook model).result output world = ((.ok table, written), after) ↔
      loadTable workbook.source model = .ok (some table) ∧
        output.warned table.warnings = written ∧ world = after := by
  rw [findTable, result_bind_eq_ok]
  constructor
  · rintro ⟨found, middle, between, checked, ran⟩
    obtain ⟨loaded, rfl, rfl⟩ := result_check_eq_ok.1 checked
    cases found with
    | none => simp [result_throw] at ran
    | some found =>
      dsimp only at ran
      rw [result_bind, result_forM_warnings] at ran
      obtain ⟨rfl, told, same⟩ := result_pure_eq_ok.1 ran
      exact ⟨loaded, told, same⟩
  · rintro ⟨loaded, rfl, rfl⟩
    refine ⟨some table, output, world, result_check_eq_ok.2 ⟨loaded, rfl, rfl⟩, ?_⟩
    dsimp only
    rw [result_bind, result_forM_warnings]
    rfl

theorem result_findCommand_eq_ok :
    (findCommand table command).result output world = ((.ok definition, written), after) ↔
      table.find? command = some definition ∧ output = written ∧ world = after := by
  rw [findCommand]
  cases table.find? command with
  | none => simp [result_throw]
  | some found => rw [result_pure_eq_ok, Option.some.injEq]

end Tables

/-- What a run begins with: nothing of it depends on the task, and JSON is asked for in the
arguments. -/
theorem run_context (workbook configDirectory : Option String) (environment : Environment)
    (world : World) :
    ∃ (context : Context) (between : World), ∀ json task,
      (Invocation.context ⟨workbook, configDirectory, json, task⟩ environment).run world =
        ({ context with json := json }, between) := by
  let directory := configDirectory.getD environment.configDirectory
  refine ⟨⟨directory, ((Settings.load? directory).run world).1.getD .initial, workbook, false,
    environment.directory⟩, ((Settings.load? directory).run world).2, fun json task => ?_⟩
  rw [Invocation.context, Action.run_bind]
  rfl

section Runs

variable {environment : Environment} {arguments : List String} {invocation : Invocation}
  {context : Context} {world between after : World} {output : Output}

/-- Arguments without a task end the run. -/
theorem run_of_stop {stop : Stop} (read : Invocation.read arguments = .error stop)
    (world : World) : ((run environment arguments).run world).1 = .ofStop stop := by
  rw [run, read]
  rfl

variable (read : Invocation.read arguments = .ok invocation)
  (begun : (invocation.context environment).run world = (context, between))

include read begun

/-- A run with a task ends with what the task comes to. -/
theorem run_of_read :
    ((run environment arguments).run world).1 =
      match (invocation.task.perform context).result ⟨"", ""⟩ between with
      | ((.ok (), output), _) => .success output
      | ((.error failure, output), _) => .failure invocation.json output failure := by
  rw [run, read]
  dsimp only
  rw [Action.run_bind, begun]
  dsimp only
  rw [Action.run_bind, Program.result]
  rcases ((invocation.task.perform context).run.run ⟨"", ""⟩).run between with
    ⟨⟨failure | _, written⟩, after⟩ <;> rfl

/-- A task that comes to a value ends the run with success. -/
theorem run_of_ok
    (done : (invocation.task.perform context).result ⟨"", ""⟩ between =
      ((.ok (), output), after)) :
    ((run environment arguments).run world).1 = .success output := by
  rw [run_of_read read begun, done]

/-- A run with a task exits with 0 exactly if the task comes to a value. -/
theorem exitCode_run :
    ((run environment arguments).run world).1.exitCode = 0 ↔
      ∃ output after, (invocation.task.perform context).result ⟨"", ""⟩ between =
        ((.ok (), output), after) := by
  rw [run_of_read read begun]
  rcases (invocation.task.perform context).result ⟨"", ""⟩ between with
    ⟨⟨failure | _, written⟩, after⟩
  case error =>
    have refused : (Outcome.failure invocation.json written failure).exitCode = 1 := by
      cases invocation.json <;> rfl
    simp [refused]
  case ok => exact ⟨fun _ => ⟨written, after, rfl⟩, fun _ => rfl⟩

end Runs

end InstrumentBench.CommandLine
