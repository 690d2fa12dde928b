import InstrumentBench.Storage.Disk

/-!
# Actions

A program that uses files and the clock is kept as a value: it is done, or it
asks the outside world one question and goes on with the answer.  The same
action can be performed on a real machine, run on a `World`, or observed step
by step.

`run_bind` says that running one action and then another is running both.
-/

namespace InstrumentBench

/-- A question to the outside world. -/
inductive Question where
  /-- The contents of a file. -/
  | read (path : String)
  /-- Whether a path leads to something. -/
  | exists (path : String)
  /-- Make a directory and what is missing above it. -/
  | makeDirectories (path : String)
  /-- Make a file empty. -/
  | createFile (path : String)
  /-- Write a file that has been made empty. -/
  | writeFile (path : String) (data : ByteArray)
  /-- Wait until a file is on the medium. -/
  | syncFile (path : String)
  | appendFile (path : String) (data : ByteArray)
  | rename (source target : String)
  /-- The milliseconds since 1970 began. -/
  | now

/-- What a question is answered with. -/
abbrev Question.Reply : Question → Type
  | .read _ => Except IoError ByteArray
  | .exists _ => Bool
  | .now => Nat
  | _ => Except IoError Unit

/-- A program with questions to the outside world. -/
inductive Action (α : Type) : Type where
  | done (value : α)
  | ask (question : Question) (next : question.Reply → Action α)

namespace Action

variable {α β : Type}

/-- The action that goes on with the value of the first. -/
def bind : Action α → (α → Action β) → Action β
  | done value, next => next value
  | ask question rest, next => ask question fun reply => bind (rest reply) next

instance : Monad Action where
  pure := done
  bind := bind

/-- The action that asks one question and gives its reply. -/
def reply (question : Question) : Action question.Reply :=
  ask question done

end Action

/-- An action that may fail. -/
abbrev Attempt (error α : Type) : Type := ExceptT error Action α

/-- One question that may be answered with an error. -/
def Attempt.io (path : Action (Except IoError Unit)) : Attempt FileError Unit :=
  ExceptT.mk do
    match ← path with
    | .ok () => return .ok ()
    | .error error => return .error (.io error)

/-- An outside world: a disk, and a clock that may show anything at each of its
readings. -/
structure World where
  disk : Disk
  clock : Nat → Nat
  readings : Nat

namespace World

/-- The disk after an operation that changes it; a failing one does not. -/
def change (world : World) (result : Except IoError Disk) : Except IoError Unit × World :=
  match result with
  | .ok disk => (.ok (), { world with disk := disk })
  | .error error => (.error error, world)

/-- The answer to a question, and the world after it. -/
def answer (world : World) : (question : Question) → question.Reply × World
  | .read path => (world.disk.read path, world)
  | .exists path => (world.disk.exists? path, world)
  | .makeDirectories path =>
    let (result, disk) := world.disk.makeDirectories path
    (result, { world with disk := disk })
  | .createFile path => world.change (world.disk.createFile path)
  | .writeFile path data => world.change (world.disk.appendFile path data)
  | .syncFile _ => (.ok (), world)
  | .appendFile path data => world.change (world.disk.appendFile path data)
  | .rename source target => world.change (world.disk.rename source target)
  | .now => (world.clock world.readings, { world with readings := world.readings + 1 })

end World

namespace Action

variable {α β : Type}

/-- The value of an action in a world, and the world after it. -/
def run : Action α → World → α × World
  | done value, world => (value, world)
  | ask question next, world =>
    let (reply, world) := world.answer question
    run (next reply) world

/-- The worlds that an action passes through, first to last. -/
def worlds : Action α → World → List World
  | done _, world => [world]
  | ask question next, world =>
    let (reply, after) := world.answer question
    world :: worlds (next reply) after

@[simp] theorem run_done (value : α) (world : World) : (done value).run world = (value, world) :=
  rfl

@[simp] theorem run_pure (value : α) (world : World) :
    (pure value : Action α).run world = (value, world) := rfl

@[simp] theorem run_reply (question : Question) (world : World) :
    (reply question).run world = world.answer question := rfl

/-- Running one action and then another is running both. -/
@[simp] theorem run_bind (action : Action α) (next : α → Action β) (world : World) :
    (action >>= next).run world = (next (action.run world).1).run (action.run world).2 := by
  change (bind action next).run world = _
  induction action generalizing world with
  | done value => rfl
  | ask question rest ih => exact ih _ _

end Action

end InstrumentBench
