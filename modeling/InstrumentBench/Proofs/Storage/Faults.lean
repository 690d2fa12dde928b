import InstrumentBench.Proofs.Storage.Disk
import InstrumentBench.Storage.Action

/-!
# Machines that fail

A machine may answer a question with an error although nothing on the disk stands in the way: the
medium is full, or does not respond.  `World.MayAnswer` says which replies are possible and what
they leave behind, and `Action.MayRun` what an action may come to, with all questions and replies.
A run on a machine that never fails is one of these runs (`Action.mayRun_run`).
-/

namespace InstrumentBench

/-! ## One question -/

namespace World

/-- A reply that a question may be given, and the world after it.  The failures are those of the
questions that a replacement asks. -/
inductive MayAnswer (world : World) : (question : Question) → question.Reply → World → Prop where
  /-- The disk decides. -/
  | served (question : Question) :
      MayAnswer world question (world.answer question).1 (world.answer question).2
  /-- Some of the directories may have been made. -/
  | unmade (path : String) (error : IoError) {disk : Disk} (grows : world.disk.Grows disk)
      (current : disk.current = world.disk.current) :
      MayAnswer world (.makeDirectories path) (.error error) { world with disk := disk }
  | uncreated (path : String) (error : IoError) :
      MayAnswer world (.createFile path) (.error error) world
  /-- Anything may have been written. -/
  | cutShort (path : String) (data : ByteArray) (error : IoError) {part : ByteArray} {disk : Disk}
      (added : world.disk.appendFile path part = .ok disk) :
      MayAnswer world (.writeFile path data) (.error error) { world with disk := disk }
  | unsynced (path : String) (error : IoError) :
      MayAnswer world (.syncFile path) (.error error) world
  | unmoved (source target : String) (error : IoError) :
      MayAnswer world (.rename source target) (.error error) world

variable {world after : World} {path : String}

theorem change_cases (world : World) (result : Except IoError Disk) :
    (world.change result).1 = .ok () ∧ result = .ok (world.change result).2.disk ∨
      (∃ error, (world.change result).1 = .error error) ∧ (world.change result).2 = world := by
  cases result with
  | ok disk => exact .inl ⟨rfl, rfl⟩
  | error error => exact .inr ⟨⟨error, rfl⟩, rfl⟩

theorem MayAnswer.exists {reply : Bool} (answered : world.MayAnswer (.exists path) reply after) :
    reply = world.disk.exists? path ∧ after = world := by
  cases answered
  exact ⟨rfl, rfl⟩

theorem MayAnswer.makeDirectories {reply : Except IoError Unit}
    (answered : world.MayAnswer (.makeDirectories path) reply after) :
    world.disk.Grows after.disk ∧ after.disk.current = world.disk.current ∧
      (reply = .ok () → after.disk = (world.disk.makeDirectories path).2) := by
  cases answered with
  | served => exact ⟨Disk.grows_makeDirectories _ _, Disk.current_makeDirectories _ _, fun _ => rfl⟩
  | unmade _ _ grows current => exact ⟨grows, current, nofun⟩

theorem MayAnswer.createFile {reply : Except IoError Unit}
    (answered : world.MayAnswer (.createFile path) reply after) :
    reply = .ok () ∧ world.disk.createFile path = .ok after.disk ∨
      (∃ error, reply = .error error) ∧ after = world := by
  cases answered with
  | served => exact world.change_cases _
  | uncreated _ error => exact .inr ⟨⟨error, rfl⟩, rfl⟩

theorem MayAnswer.writeFile {data : ByteArray} {reply : Except IoError Unit}
    (answered : world.MayAnswer (.writeFile path data) reply after) :
    reply = .ok () ∧ world.disk.appendFile path data = .ok after.disk ∨
      (∃ error, reply = .error error) ∧
        (after = world ∨ ∃ part, world.disk.appendFile path part = .ok after.disk) := by
  cases answered with
  | served => exact (world.change_cases _).imp_right fun ⟨failed, same⟩ => ⟨failed, .inl same⟩
  | cutShort _ _ error added => exact .inr ⟨⟨error, rfl⟩, .inr ⟨_, added⟩⟩

theorem MayAnswer.syncFile {reply : Except IoError Unit}
    (answered : world.MayAnswer (.syncFile path) reply after) : after = world := by
  cases answered <;> rfl

theorem MayAnswer.rename {source target : String} {reply : Except IoError Unit}
    (answered : world.MayAnswer (.rename source target) reply after) :
    reply = .ok () ∧ world.disk.rename source target = .ok after.disk ∨
      (∃ error, reply = .error error) ∧ after = world := by
  cases answered with
  | served => exact world.change_cases _
  | unmoved _ _ error => exact .inr ⟨⟨error, rfl⟩, rfl⟩

end World

/-! ## One action -/

namespace Action

variable {α β : Type}

/-- What an action may come to in a world: the questions with their replies, the value and the
world after it. -/
inductive MayRun : Action α → World → List (Sigma Question.Reply) → α → World → Prop where
  | done (value : α) (world : World) : MayRun (.done value) world [] value world
  | ask {question : Question} {next : question.Reply → Action α} {reply : question.Reply}
      {trace : List (Sigma Question.Reply)} {value : α} {world middle after : World}
      (answered : world.MayAnswer question reply middle)
      (rest : MayRun (next reply) middle trace value after) :
      MayRun (.ask question next) world (⟨question, reply⟩ :: trace) value after

variable {action : Action α} {world after : World} {trace : List (Sigma Question.Reply)}

/-- A run of one action and then another is a run of each. -/
theorem MayRun.of_bind {next : α → Action β} {value : β}
    (run : (action >>= next).MayRun world trace value after) :
    ∃ early late between middle, trace = early ++ late ∧
      action.MayRun world early between middle ∧
        (next between).MayRun middle late value after := by
  change (bind action next).MayRun world trace value after at run
  induction action generalizing world trace with
  | done first => exact ⟨[], trace, first, world, rfl, .done first world, run⟩
  | ask question rest ih =>
    cases run with
    | @ask _ _ reply others _ _ _ _ answered run =>
      obtain ⟨early, late, between, middle, rfl, first, second⟩ := ih reply run
      exact ⟨⟨question, reply⟩ :: early, late, between, middle, rfl, .ask answered first, second⟩

theorem MayRun.of_reply {question : Question} {value : question.Reply}
    (run : (reply question).MayRun world trace value after) :
    world.MayAnswer question value after ∧ trace = [⟨question, value⟩] := by
  cases run with
  | ask answered rest =>
    cases rest
    exact ⟨answered, rfl⟩

theorem MayRun.of_pure {first value : α}
    (run : (pure first : Action α).MayRun world trace value after) :
    value = first ∧ after = world := by
  cases run
  exact ⟨rfl, rfl⟩

/-- The questions of an action with their replies, where nothing fails. -/
def replies : Action α → World → List (Sigma Question.Reply)
  | .done _, _ => []
  | .ask question next, world =>
    let (reply, after) := world.answer question
    ⟨question, reply⟩ :: replies (next reply) after

/-- Nothing need fail. -/
theorem mayRun_run (action : Action α) (world : World) :
    action.MayRun world (action.replies world) (action.run world).1 (action.run world).2 := by
  induction action generalizing world with
  | done value => exact .done value world
  | ask question next ih => exact .ask (.served question) (ih _ _)

end Action

namespace Attempt

variable {world after : World} {trace : List (Sigma Question.Reply)}
  {result : Except FileError Unit}

theorem mayRun_io {action : Action (Except IoError Unit)}
    (run : (io action).run.MayRun world trace result after) :
    ∃ reply, action.MayRun world trace reply after ∧ result = reply.mapError FileError.io := by
  change (action >>= _ : Action _).MayRun world trace result after at run
  obtain ⟨early, late, reply, middle, rfl, first, second⟩ := run.of_bind
  rcases reply with error | ⟨⟩ <;> cases second <;> exact ⟨_, by simpa using first, rfl⟩

/-- An attempt that begins with a question goes on if the answer is no error. -/
theorem mayRun_io_bind {action : Action (Except IoError Unit)}
    {rest : Unit → Attempt FileError Unit}
    (run : (io action >>= rest).run.MayRun world trace result after) :
    ∃ early late reply middle, trace = early ++ late ∧ action.MayRun world early reply middle ∧
      (reply = .ok () ∧ (rest ()).run.MayRun middle late result after ∨
        ∃ error, reply = .error error ∧ result = .error (.io error) ∧ after = middle) := by
  change ((action >>= _) >>= _ : Action _).MayRun world trace result after at run
  obtain ⟨early, late, between, middle, rfl, first, second⟩ := run.of_bind
  obtain ⟨reply, asked, rfl⟩ := mayRun_io first
  refine ⟨early, late, reply, middle, rfl, asked, ?_⟩
  rcases reply with error | ⟨⟩
  case error =>
    cases second
    exact .inr ⟨error, rfl, rfl, rfl⟩
  case ok => exact .inl ⟨rfl, second⟩

theorem mayRun_lift_bind {α : Type} {action : Action α} {rest : α → Attempt FileError Unit}
    (run : (ExceptT.lift action >>= rest).run.MayRun world trace result after) :
    ∃ early late value middle, trace = early ++ late ∧ action.MayRun world early value middle ∧
      (rest value).run.MayRun middle late result after := by
  change ((action >>= _) >>= _ : Action _).MayRun world trace result after at run
  obtain ⟨early, late, between, middle, rfl, first, second⟩ := run.of_bind
  obtain ⟨before, none, value, _, rfl, first, last⟩ := first.of_bind
  cases last
  exact ⟨before, late, value, middle, by simp, first, second⟩

end Attempt

end InstrumentBench
