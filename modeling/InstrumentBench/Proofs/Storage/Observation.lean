import InstrumentBench.Storage.Action

/-!
# Observing actions

The worlds that an action passes through are those that somebody else may find while it is
under way, and those that a crash may leave behind.  One action and then another pass
through the worlds of both (`Action.mem_worlds_bind`); an attempt stops passing through
worlds where it fails (`Attempt.mem_worlds_io_bind`).
-/

namespace InstrumentBench

namespace Action

variable {α β : Type}

theorem mem_worlds_self (action : Action α) (world : World) : world ∈ action.worlds world := by
  cases action with
  | done value => exact List.mem_cons_self
  | ask question next => exact List.mem_cons_self

theorem mem_worlds_run (action : Action α) (world : World) :
    (action.run world).2 ∈ action.worlds world := by
  induction action generalizing world with
  | done value => exact List.mem_cons_self
  | ask question next ih => exact List.mem_cons_of_mem world (ih _ _)

/-- Two actions pass through the worlds of both. -/
theorem mem_worlds_bind {action : Action α} {next : α → Action β} {world between : World} :
    between ∈ (action >>= next).worlds world ↔
      between ∈ action.worlds world ∨
        between ∈ (next (action.run world).1).worlds (action.run world).2 := by
  change between ∈ (bind action next).worlds world ↔ _
  induction action generalizing world with
  | done value =>
    have start := mem_worlds_self (next value) world
    rw [bind, worlds, run_done, List.mem_singleton]
    exact ⟨.inr, fun either => either.elim (fun here => here ▸ start) id⟩
  | ask question rest ih =>
    rw [bind, worlds, worlds, run, List.mem_cons, List.mem_cons, ih, or_assoc]

theorem worlds_reply_bind {question : Question} (next : question.Reply → Action β)
    (world : World) :
    (reply question >>= next).worlds world =
      world :: (next (world.answer question).1).worlds (world.answer question).2 := rfl

/-- Asking a question is one step. -/
theorem reply_of_answer {world after : World} {question : Question} {result : question.Reply}
    (answered : world.answer question = (result, after)) :
    (reply question).run world = (result, after) ∧
      (reply question).worlds world = [world, after] :=
  ⟨answered, by rw [reply, worlds, answered]; rfl⟩

end Action

namespace Attempt

theorem io_run (action : Action (Except IoError Unit)) (world : World) :
    (io action).run.run world =
      ((action.run world).1.mapError FileError.io, (action.run world).2) := by
  change (action >>= _ : Action _).run world = _
  rw [Action.run_bind]
  rcases (action.run world).1 with error | ⟨⟩ <;> rfl

theorem mem_worlds_io (action : Action (Except IoError Unit)) (world between : World) :
    between ∈ (io action).run.worlds world ↔ between ∈ action.worlds world := by
  change between ∈ (action >>= _ : Action _).worlds world ↔ _
  rw [Action.mem_worlds_bind]
  refine ⟨fun either => either.elim id fun later => ?_, .inl⟩
  have start := action.mem_worlds_run world
  generalize action.run world = result at later start
  obtain ⟨_ | ⟨⟩, last⟩ := result <;> exact List.mem_singleton.1 later ▸ start

/-- An attempt that begins with a question goes on if the answer is no error. -/
theorem io_bind_run (action : Action (Except IoError Unit)) (rest : Unit → Attempt FileError Unit)
    (world : World) :
    (io action >>= rest).run.run world =
      match (action.run world).1 with
      | .ok () => (rest ()).run.run (action.run world).2
      | .error error => (.error (.io error), (action.run world).2) := by
  change ((action >>= _) >>= _ : Action _).run world = _
  rw [Action.run_bind, Action.run_bind]
  rcases (action.run world).1 with error | ⟨⟩ <;> rfl

theorem mem_worlds_io_bind (action : Action (Except IoError Unit))
    (rest : Unit → Attempt FileError Unit) (world between : World) :
    between ∈ (io action >>= rest).run.worlds world ↔
      between ∈ action.worlds world ∨
        match (action.run world).1 with
        | .ok () => between ∈ (rest ()).run.worlds (action.run world).2
        | .error _ => between = (action.run world).2 := by
  change between ∈ ((action >>= _) >>= _ : Action _).worlds world ↔ _
  rw [Action.mem_worlds_bind, Action.mem_worlds_bind, Action.run_bind, or_assoc]
  refine or_congr_right ?_
  rcases (action.run world).1 with error | ⟨⟩
  case error => exact or_self_iff.trans List.mem_singleton
  case ok =>
    have start := Action.mem_worlds_self (rest ()).run (action.run world).2
    refine ⟨fun either => either.elim (fun here => ?_) id, .inr⟩
    rwa [List.mem_singleton.1 here]

theorem run_lift_bind {α : Type} (action : Action α) (rest : α → Attempt FileError Unit)
    (world : World) :
    (ExceptT.lift action >>= rest).run.run world =
      (rest (action.run world).1).run.run (action.run world).2 := by
  change ((action >>= _) >>= _ : Action _).run world = _
  rw [Action.run_bind, Action.run_bind]
  rfl

theorem mem_worlds_lift_bind {α : Type} (action : Action α) (rest : α → Attempt FileError Unit)
    (world between : World) :
    between ∈ (ExceptT.lift action >>= rest).run.worlds world ↔
      between ∈ action.worlds world ∨
        between ∈ (rest (action.run world).1).run.worlds (action.run world).2 := by
  change between ∈ ((action >>= _) >>= _ : Action _).worlds world ↔ _
  rw [Action.mem_worlds_bind, Action.mem_worlds_bind, Action.run_bind, or_assoc]
  refine or_congr_right ⟨fun either => either.elim (fun here => ?_) id, .inr⟩
  have start := Action.mem_worlds_self (rest (action.run world).1).run (action.run world).2
  rwa [List.mem_singleton.1 here]

end Attempt

end InstrumentBench
