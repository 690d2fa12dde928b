import InstrumentBench.Proofs.Storage.Faults
import InstrumentBench.Proofs.Storage.Naming

/-!
# Actions that only look

An action that asks only whether a path leads somewhere and what it holds changes nothing, also on
a machine that may fail (`Action.LooksAt.mayRun`).  What can be read at a path depends on the files
and directories, and on the current directory only if the path is relative (`World.Resumes.read`).
-/

namespace InstrumentBench

namespace Action

variable {α β : Type} {path : String}

theorem run_exists_bind (path : String) (next : Bool → Action β) (world : World) :
    (reply (.exists path) >>= next).run world = (next (world.disk.exists? path)).run world := rfl

theorem run_read_bind (path : String) (next : Except IoError ByteArray → Action β)
    (world : World) :
    (reply (.read path) >>= next).run world = (next (world.disk.read path)).run world := rfl

/-- An action that asks only what is at a path. -/
inductive LooksAt (path : String) : Action α → Prop where
  | done (value : α) : LooksAt path (.done value)
  | exists {next : Bool → Action α} (later : ∀ reply, LooksAt path (next reply)) :
      LooksAt path (.ask (.exists path) next)
  | read {next : Except IoError ByteArray → Action α}
      (later : ∀ reply, LooksAt path (next reply)) : LooksAt path (.ask (.read path) next)

namespace LooksAt

variable {action : Action α} {world after : World}

theorem bind {next : α → Action β} (first : action.LooksAt path)
    (later : ∀ value, (next value).LooksAt path) : (action >>= next).LooksAt path := by
  induction first with
  | done value => exact later value
  | «exists» _ ih => exact .exists ih
  | read _ ih => exact .read ih

theorem of_exists {next : Bool → Action β} (later : ∀ there, (next there).LooksAt path) :
    (reply (.exists path) >>= next).LooksAt path :=
  .exists later

theorem of_read {next : Except IoError ByteArray → Action β}
    (later : ∀ contents, (next contents).LooksAt path) :
    (reply (.read path) >>= next).LooksAt path :=
  .read later

/-- Looking changes nothing and cannot go wrong. -/
theorem mayRun {trace : List (Sigma Question.Reply)} {value : α} (looks : action.LooksAt path)
    (run : action.MayRun world trace value after) :
    value = (action.run world).1 ∧ after = world := by
  induction looks generalizing trace with
  | done value =>
    cases run
    exact ⟨rfl, rfl⟩
  | «exists» _ ih =>
    cases run with
    | ask answered rest =>
      cases answered
      exact ih _ rest
  | read _ ih =>
    cases run with
    | ask answered rest =>
      cases answered
      exact ih _ rest

end LooksAt

end Action

namespace Disk

theorem read_of_not_exists {disk : Disk} {path : String} (absent : disk.exists? path = false) :
    ∃ error, disk.read path = .error error := by
  rw [exists?] at absent
  cases found : disk.find path with
  | error error => exact ⟨error, by rw [Disk.read, found]; rfl⟩
  | ok node => simp [found] at absent

/-! ## Another current directory -/

variable {before after : Disk} {path : String}

theorem node?_congr (nodes : after.nodes = before.nodes) (place : Place) :
    after.node? place = before.node? place := by
  rw [node?, node?, nodes]

theorem walk_congr (nodes : after.nodes = before.nodes) (directory : Place)
    (names : List String) : after.walk directory names = before.walk directory names := by
  fun_induction before.walk directory names
  case case1 directory => rfl
  case case2 directory name => rfl
  case case3 directory name next rest ih =>
    rw [walk]
    simp only [node?_congr nodes, ih]

theorem find_congr (nodes : after.nodes = before.nodes)
    (start : after.start path = before.start path) : after.find path = before.find path := by
  have located : after.locate path = before.locate path := by
    rw [Disk.start, Disk.start] at start
    rw [locate, locate, start, walk_congr nodes]
  rw [find, find, located]
  simp only [node?_congr nodes]

end Disk

/-- The operator may have gone to another directory, which does not matter to an absolute path, and
the clock may show anything. -/
structure World.Resumes (path : String) (before after : World) : Prop where
  nodes : after.disk.nodes = before.disk.nodes
  current : Path.isAbsolute path = false → after.disk.current = before.disk.current

theorem World.Resumes.refl (path : String) (world : World) : Resumes path world world :=
  ⟨rfl, fun _ => rfl⟩

theorem World.Resumes.elsewhere {path : String} (absolute : Path.isAbsolute path = true)
    (world : World) (place : Place) :
    Resumes path world { world with disk := { world.disk with current := place } } where
  nodes := rfl
  current relative := nomatch absolute.symm.trans relative

theorem World.Resumes.read {path : String} {before after : World}
    (resumes : Resumes path before after) : after.disk.read path = before.disk.read path := by
  have start : after.disk.start path = before.disk.start path := by
    rw [Disk.start, Disk.start]
    cases absolute : Path.isAbsolute path with
    | false => rw [resumes.current absolute]
    | true => rfl
  rw [Disk.read, Disk.read, Disk.find_congr resumes.nodes start]

end InstrumentBench
