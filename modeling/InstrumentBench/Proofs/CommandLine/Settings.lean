import InstrumentBench.Proofs.CommandLine.Checks
import InstrumentBench.Proofs.CommandLine.Program
import InstrumentBench.Proofs.Configuration
import InstrumentBench.Proofs.Storage.Absolute

/-!
# Changing the settings

`config set-workbook` and `config audit` load the settings, change one of them and keep them all.
After any number of such runs that succeed, each setting is the one that was given last, or the one
in force at the start if it was not given (`settings_after_changes`).  What was in the configuration
directory at the start does not matter, and neither does a machine that refuses to keep a backup,
nor where the operator goes between the runs: a workbook is remembered as it is seen from the root,
so that it is found again from anywhere (`Disk.FindsFrom`).
-/

namespace InstrumentBench.CommandLine

open InstrumentBench.Configuration (settingsFile)

variable {world after : World} {trace : List (Sigma Question.Reply)}

/-! ## One change -/

section Change

variable {context : Context} {change : SettingsChange} {environment : Environment}
  {invocation : Invocation} {directory : String}

/-- A change that succeeds has kept the changed settings. -/
theorem mayRun_applyChange {output written : Output}
    (run : ((applyChange context change).run.run output).MayRun world trace (.ok (), written)
      after) :
    ∃ early, ((change.apply context.directory context.settings).save
      context.configDirectory).run.MayRun world early (.ok ()) after := by
  obtain ⟨_, late, first, middle, attempted, shown⟩ := Program.mayRun_bind run
  obtain ⟨early, result, run, rfl⟩ := Program.mayRun_attempt attempted
  cases result with
  | error error =>
    obtain ⟨failed, -⟩ := shown.of_pure
    cases failed
  | ok done =>
    obtain ⟨-, rfl⟩ := shown.of_pure
    exact ⟨early, run⟩

/-- A run works with the settings in force. -/
theorem mayRun_context {context : Context}
    (run : (invocation.context environment).MayRun world trace context after)
    (named : invocation.configDirectory.getD environment.configDirectory = directory) :
    context.configDirectory = directory ∧ context.settings = Settings.inForce directory world ∧
      context.directory = environment.directory ∧ after = world := by
  obtain ⟨_, _, loaded, middle, -, looked, built⟩ := run.of_bind
  obtain ⟨rfl, rfl⟩ := (Settings.looksAt_load? _).mayRun looked
  obtain ⟨rfl, rfl⟩ := built.of_pure
  subst named
  exact ⟨rfl, rfl, rfl, rfl⟩

/-- A run of the program that changes a setting in a configuration directory and succeeds, on a
machine that may fail, however it is asked for. -/
def Changes (directory : String) (environment : Environment) (change : SettingsChange)
    (before after : World) : Prop :=
  ∃ arguments invocation trace outcome, Invocation.read arguments = .ok invocation ∧
    invocation.task = .changeSettings change ∧
    invocation.configDirectory.getD environment.configDirectory = directory ∧
    (run environment arguments).MayRun before trace outcome after ∧ outcome.exitCode = 0

theorem Changes.saved {before : World}
    (changes : Changes directory environment change before after) :
    ∃ trace, ((change.apply environment.directory (Settings.inForce directory before)).save
      directory).run.MayRun before trace (.ok ()) after := by
  obtain ⟨arguments, invocation, trace, outcome, read, task, named, run, done⟩ := changes
  rw [CommandLine.run, read] at run
  obtain ⟨_, _, context, middle, -, begun, continued⟩ := run.of_bind
  obtain ⟨configured, settings, started, rfl⟩ := mayRun_context begun named
  obtain ⟨_, _, ⟨result, output⟩, last, -, performed, ended⟩ := continued.of_bind
  cases result with
  | error failure =>
    obtain ⟨rfl, -⟩ := ended.of_pure
    cases json : invocation.json <;> rw [json] at done <;> cases done
  | ok value =>
    obtain ⟨-, rfl⟩ := ended.of_pure
    rw [task] at performed
    obtain ⟨trace, saved⟩ := mayRun_applyChange performed
    rw [started, settings, configured] at saved
    exact ⟨trace, saved⟩

/-- After a change that succeeds, the settings that were in force are loaded with the change. -/
theorem Changes.loaded {before : World}
    (changes : Changes directory environment change before after) :
    ((Settings.load? directory).run after).1 =
      some (change.apply environment.directory (Settings.inForce directory before)) := by
  obtain ⟨trace, saved⟩ := changes.saved
  refine Settings.load?_of_save ?_ saved
  have sized := Settings.version_inForce_lt directory before
  cases change <;> exact sized

end Change

/-! ## Asking for a change -/

section Asking

variable {directory : String} {environment : Environment} {before : World} {outcome : Outcome}

theorem readFrom_setWorkbook (path : String) :
    readFrom .program .none false ["config", "set-workbook", "--", path] = do
      let given ← finish .setWorkbook false ⟨[], [], .positional ⟨"PATH", .file⟩ path⟩
      return [(.program, .none), (.config, .none), (.setWorkbook, given)] := by
  have program : readFrom .program .none false ["config", "set-workbook", "--", path] = (do
      let below ← readFrom .config .none false ["set-workbook", "--", path]
      return (.program, .none) :: below) := rfl
  have config : readFrom .config .none false ["set-workbook", "--", path] = (do
      let below ← readFrom .setWorkbook .none false ["--", path]
      return (.config, .none) :: below) := rfl
  have divided : readFrom .setWorkbook .none false ["--", path] =
      readFrom .setWorkbook .none true [path] := rfl
  have named : readFrom .setWorkbook .none true [path] = (do
      let given ← finish .setWorkbook false ⟨[], [], .positional ⟨"PATH", .file⟩ path⟩
      return [(.setWorkbook, given)]) := rfl
  rw [program, config, divided, named]
  cases finish .setWorkbook false ⟨[], [], .positional ⟨"PATH", .file⟩ path⟩ <;> rfl

/-- Any path but the empty one can be given, also one that starts with a dash. -/
theorem read_setWorkbook {path : String} (named : path ≠ "") :
    Invocation.read ["config", "set-workbook", "--", path] =
      .ok ⟨none, none, false, .changeSettings (.workbook path)⟩ := by
  have accepted : ValueRule.file.accepts path = true := decide_eq_true named
  have settled : finish .setWorkbook false ⟨[], [], .positional ⟨"PATH", .file⟩ path⟩ =
      .ok ⟨[], [path], .nothing⟩ := by
    rw [finish]
    simp [Given.settle?, accepted]
    rfl
  rw [Invocation.read, readFrom_setWorkbook, settled]
  rfl

theorem read_setAudit (enabled : Bool) :
    Invocation.read ["config", "audit", toString enabled] =
      .ok ⟨none, none, false, .changeSettings (.audit enabled)⟩ := by
  cases enabled <;> rfl

theorem changes_of_setWorkbook {path : String} (named : path ≠ "")
    (located : environment.configDirectory = directory)
    (run : (CommandLine.run environment ["config", "set-workbook", "--", path]).MayRun before
      trace outcome after) (done : outcome.exitCode = 0) :
    Changes directory environment (.workbook path) before after :=
  ⟨_, _, trace, outcome, read_setWorkbook named, rfl, located, run, done⟩

theorem changes_of_setAudit {enabled : Bool}
    (located : environment.configDirectory = directory)
    (run : (CommandLine.run environment ["config", "audit", toString enabled]).MayRun before trace
      outcome after) (done : outcome.exitCode = 0) :
    Changes directory environment (.audit enabled) before after :=
  ⟨_, _, trace, outcome, read_setAudit enabled, rfl, located, run, done⟩

end Asking

/-! ## Any number of changes -/

/-- Runs of the program that change settings in a configuration directory, each with its
surroundings, where the operator may go elsewhere before each of them and after the last. -/
inductive ChangeRuns (directory : String) :
    World → List (Environment × SettingsChange) → World → Prop where
  | done {before after : World}
      (resumes : World.Resumes (settingsFile directory) before after) :
      ChangeRuns directory before [] after
  | more {before start middle after : World} {environment : Environment} {change : SettingsChange}
      {rest : List (Environment × SettingsChange)}
      (resumes : World.Resumes (settingsFile directory) before start)
      (changes : Changes directory environment change start middle)
      (runs : ChangeRuns directory middle rest after) :
      ChangeRuns directory before ((environment, change) :: rest) after

/-- The settings after one change and then another. -/
def changed (settings : Settings) (changes : List (Environment × SettingsChange)) : Settings :=
  changes.foldl (fun settings run => run.2.apply run.1.directory settings) settings

/-- The workbook that is remembered by a change, if any. -/
def SettingsChange.workbook? (directory : String) : SettingsChange → Option String
  | workbook path => some (Path.absolute directory path)
  | audit _ => none

/-- What a change says about the logging of commands, if anything. -/
def SettingsChange.audit? : SettingsChange → Option Bool
  | workbook _ => none
  | audit enabled => some enabled

theorem SettingsChange.apply_eq (change : SettingsChange) (directory : String)
    (settings : Settings) :
    change.apply directory settings =
      { version := settings.version
        workbook := (change.workbook? directory).or settings.workbook
        audit := change.audit?.getD settings.audit } := by
  cases change <;> rfl

theorem getLast?_filterMap_cons {α β : Type} (f : α → Option β) (head : α) (tail : List α) :
    ((head :: tail).filterMap f).getLast? = (tail.filterMap f).getLast?.or (f head) := by
  rw [List.filterMap_cons]
  cases f head with
  | none => exact (Option.or_none).symm
  | some value => rw [List.getLast?_cons, ← Option.or_some]

variable {directory : String} {before : World} {changes : List (Environment × SettingsChange)}

theorem ChangeRuns.loaded {settings : Settings} (runs : ChangeRuns directory before changes after)
    (loaded : ((Settings.load? directory).run before).1 = some settings) :
    ((Settings.load? directory).run after).1 = some (changed settings changes) := by
  induction runs generalizing settings with
  | done resumes => rw [Settings.run_load?_of_resumes resumes, loaded, changed, List.foldl_nil]
  | more resumes changes _ ih =>
    have inForce := changes.loaded
    rw [Settings.inForce, Settings.run_load?_of_resumes resumes, loaded] at inForce
    exact ih inForce

theorem changed_eq (settings : Settings) (changes : List (Environment × SettingsChange)) :
    changed settings changes =
      { version := settings.version
        workbook := (changes.filterMap fun run =>
          run.2.workbook? run.1.directory).getLast?.or settings.workbook
        audit := (changes.filterMap fun run => run.2.audit?).getLast?.getD settings.audit } := by
  induction changes generalizing settings with
  | nil => rfl
  | cons run rest ih =>
    have first : changed settings (run :: rest) =
        changed (run.2.apply run.1.directory settings) rest := rfl
    rw [first, ih, SettingsChange.apply_eq, getLast?_filterMap_cons, getLast?_filterMap_cons,
      Option.or_assoc, Option.getD_or]

/-- A workbook that is remembered has a name. -/
theorem ChangeRuns.workbook_ne_empty (runs : ChangeRuns directory before changes after)
    {environment : Environment} {path : String}
    (given : (environment, .workbook path) ∈ changes) : path ≠ "" := by
  induction runs with
  | done => cases given
  | more resumes change _ ih =>
    rcases List.mem_cons.1 given with same | later
    case inl =>
      cases same
      obtain ⟨arguments, invocation, trace, outcome, read, task, -⟩ := change
      exact CommandLine.workbook_ne_empty read task
    case inr => exact ih later

/-- After runs that change settings and all succeed, the settings that are loaded have the workbook
and the logging that were given last, or else those in force at the start.  A workbook is remembered
by its path as seen from the directory that the program was started in, which finds it again. -/
theorem settings_after_changes (changing : changes ≠ [])
    (runs : ChangeRuns directory before changes after) :
    ((Settings.load? directory).run after).1 = some
        { version := (Settings.inForce directory before).version
          workbook := (changes.filterMap fun run => run.2.workbook? run.1.directory).getLast?.or
            (Settings.inForce directory before).workbook
          audit := (changes.filterMap fun run => run.2.audit?).getLast?.getD
            (Settings.inForce directory before).audit } ∧
      ∀ environment path, (environment, .workbook path) ∈ changes →
        Path.SeenFrom environment.directory path (Path.absolute environment.directory path) ∧
        (Path.isAbsolute environment.directory → Disk.FindsFrom environment.directory path
          (Path.absolute environment.directory path)) := by
  refine ⟨?_, fun environment path given => ?_⟩
  case refine_2 =>
    have seenFrom : Path.SeenFrom environment.directory path
        (Path.absolute environment.directory path) :=
      Path.seenFrom_absolute (runs.workbook_ne_empty given)
    exact ⟨seenFrom, Disk.findsFrom_of_seenFrom seenFrom⟩
  case refine_1 =>
    rw [← changed_eq]
    cases runs with
    | done resumes => exact absurd rfl changing
    | more resumes change rest =>
      have first := change.loaded
      rw [Settings.inForce, Settings.run_load?_of_resumes resumes] at first
      exact rest.loaded first

/-- A disk with settings that cannot be read. -/
def brokenWorld : World :=
  ⟨⟨["work"], [(["work"], .directory), (["cfg"], .directory),
    (["cfg", "com.scpi-console.app"], .directory),
    (["cfg", "com.scpi-console.app", "settings.json"], .file "[".toUTF8)]⟩, fun _ => 0, 0⟩

/-- An environment that names a place for the configuration of programs. -/
def Environment.placed (directory : String) : Environment where
  lookup name := if name = "XDG_CONFIG_HOME" then some "/cfg" else none
  directory := directory

/-- A workbook is named, and then the logging is turned off in another directory. -/
theorem settings_after_changes_broken :
    let first := ((run (.placed "/work") ["config", "set-workbook", "--", "-psu.json"]).run
      brokenWorld).2
    let moved : World := { first with disk := { first.disk with current := [] } }
    let second := ((run (.placed "/") ["config", "audit", "false"]).run moved).2
    ((Settings.load? "/cfg/com.scpi-console.app").run brokenWorld).1 = none ∧
      ((Settings.load? "/cfg/com.scpi-console.app").run second).1 =
        some ⟨1, some "/work/-psu.json", false⟩ ∧
      Path.SeenFrom "/work" "-psu.json" "/work/-psu.json" ∧
      Disk.FindsFrom "/work" "-psu.json" "/work/-psu.json" := by
  intro first moved second
  have broken : ((Settings.load? "/cfg/com.scpi-console.app").run brokenWorld).1 = none := by
    decide +kernel
  have absolute : Path.isAbsolute (settingsFile "/cfg/com.scpi-console.app") = true := by
    decide +kernel
  have named : Changes "/cfg/com.scpi-console.app" (.placed "/work") (.workbook "-psu.json")
      brokenWorld first :=
    changes_of_setWorkbook (by decide) (by decide +kernel) (Action.mayRun_run _ _)
      (by decide +kernel)
  have silenced : Changes "/cfg/com.scpi-console.app" (.placed "/") (.audit false) moved second :=
    changes_of_setAudit (by decide +kernel) (Action.mayRun_run _ _) (by decide +kernel)
  have runs : ChangeRuns "/cfg/com.scpi-console.app" brokenWorld
      [(.placed "/work", .workbook "-psu.json"), (.placed "/", .audit false)] second :=
    .more (.refl _ _) named (.more (.elsewhere absolute _ _) silenced (.done (.refl _ _)))
  obtain ⟨loaded, seen⟩ := settings_after_changes (by simp) runs
  rw [Settings.inForce, broken] at loaded
  refine ⟨broken, loaded.trans (by decide +kernel), ?_⟩
  have written : Path.absolute "/work" "-psu.json" = "/work/-psu.json" := by decide +kernel
  obtain ⟨seenFrom, finds⟩ := seen (.placed "/work") "-psu.json" List.mem_cons_self
  rw [Environment.placed, written] at seenFrom finds
  exact ⟨seenFrom, finds (by decide)⟩

end InstrumentBench.CommandLine
