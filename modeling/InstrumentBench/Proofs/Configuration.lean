import InstrumentBench.Proofs.Documents
import InstrumentBench.Proofs.Storage.Looking
import InstrumentBench.Proofs.Storage.Written
import InstrumentBench.Proofs.Text.Bytes

/-!
# Settings that are kept

Settings that have been kept without a failure are the ones that are loaded afterwards
(`Settings.load?_of_save`), whatever was in the configuration directory before.  Their version must
be a word of 32 bits, which the version of the settings in force always is
(`Settings.version_inForce_lt`).
-/

namespace InstrumentBench

open Json

/-! ## Documents in files -/

theorem run_readText (path : String) (world : World) :
    ((readText path).run.run world).1.toOption =
      (world.disk.read path).toOption.bind String.fromUTF8? := by
  rw [readText, ExceptT.run_mk, Action.run_read_bind]
  cases world.disk.read path with
  | error error => rfl
  | ok data =>
    dsimp only [Except.toOption, Option.bind_some]
    cases String.fromUTF8? data <;> rfl

theorem run_readDocument {α : Type} (decode : Decoder α) (path : String) (world : World) :
    ((readDocument decode path).run.run world).1.toOption =
      ((world.disk.read path).toOption.bind String.fromUTF8?).bind (decodeText? decode) := by
  rw [readDocument, ExceptT.run_mk, Action.run_bind, ← run_readText]
  cases ((readText path).run.run world).1 with
  | error error => rfl
  | ok text =>
    dsimp only [Except.toOption, Option.bind_some]
    cases decodeText? decode text <;> rfl

theorem looksAt_readText (path : String) : (readText path).run.LooksAt path := by
  refine .of_read fun reply => ?_
  cases reply with
  | error error => exact .done _
  | ok data =>
    dsimp only
    split <;> exact .done _

theorem looksAt_readDocument {α : Type} (decode : Decoder α) (path : String) :
    (readDocument decode path).run.LooksAt path := by
  refine (looksAt_readText path).bind fun outcome => ?_
  cases outcome with
  | error error => exact .done _
  | ok text =>
    dsimp only
    split <;> exact .done _

/-! ## Settings -/

namespace Settings

open InstrumentBench.Configuration (settingsFile)

variable {directory : String} {settings : Settings} {world after : World}

/-- The settings that a run goes by: those that are loaded, or else the default ones. -/
def inForce (directory : String) (world : World) : Settings :=
  ((load? directory).run world).1.getD .initial

theorem looksAt_load? (directory : String) :
    (load? directory).LooksAt (settingsFile directory) := by
  refine .of_exists fun there => ?_
  cases there with
  | false => exact .done _
  | true =>
    refine (looksAt_readDocument decode _).bind fun outcome => ?_
    cases outcome <;> exact .done _

/-- What is loaded is what the settings file holds, if it can be read and decoded. -/
theorem run_load? (directory : String) (world : World) :
    ((load? directory).run world).1 =
      ((world.disk.read (settingsFile directory)).toOption.bind String.fromUTF8?).bind
        (decodeText? decode) := by
  rw [load?, Action.run_exists_bind]
  cases there : world.disk.exists? (settingsFile directory) with
  | false =>
    obtain ⟨error, failed⟩ := Disk.read_of_not_exists there
    rw [failed, if_neg Bool.false_ne_true]
    rfl
  | true =>
    rw [if_pos rfl, Action.run_bind, ← run_readDocument]
    cases ((readDocument decode (settingsFile directory)).run.run world).1 <;> rfl

/-- What is loaded stays the same while the settings file is left alone. -/
theorem run_load?_of_resumes (resumes : World.Resumes (settingsFile directory) world after) :
    ((load? directory).run after).1 = ((load? directory).run world).1 := by
  rw [run_load?, run_load?, resumes.read]

theorem version_lt_of_decode {room : Nat} {tree : Tree}
    (decoded : decode room tree = some settings) : settings.version < Nat.pow 2 32 := by
  obtain ⟨⟨inner, fields⟩, -, decoded⟩ := Option.bind_eq_some_iff.1 decoded
  dsimp only at decoded
  split at decoded
  next version workbook audit =>
    obtain ⟨number, given, decoded⟩ := Option.bind_eq_some_iff.1 decoded
    obtain ⟨path, -, decoded⟩ := Option.bind_eq_some_iff.1 decoded
    obtain ⟨enabled, -, same⟩ := Option.bind_eq_some_iff.1 decoded
    cases same
    cases version with
    | given tree => exact @Decoder.lt_of_word 32 inner _ tree given
    | omitted => cases given
    | beyond => cases given
  next => cases decoded

/-- The version of the settings in force is a word. -/
theorem version_inForce_lt (directory : String) (world : World) :
    (inForce directory world).version < Nat.pow 2 32 := by
  rw [inForce, run_load?]
  cases loaded : ((world.disk.read (settingsFile directory)).toOption.bind
      String.fromUTF8?).bind (decodeText? decode) with
  | none => decide
  | some settings =>
    obtain ⟨text, -, decoded⟩ := Option.bind_eq_some_iff.1 loaded
    obtain ⟨tree, -, decoded⟩ := Option.bind_eq_some_iff.1 decoded
    exact version_lt_of_decode decoded

/-- Settings that have been kept are loaded afterwards. -/
theorem load?_of_save {trace : List (Sigma Question.Reply)}
    (sized : settings.version < Nat.pow 2 32)
    (run : (save directory settings).run.MayRun world trace (.ok ()) after) :
    ((load? directory).run after).1 = some settings := by
  obtain ⟨early, late, reply, middle, -, -, saved⟩ := Attempt.mayRun_io_bind run
  obtain ⟨-, replaced⟩ := saved.resolve_right (by simp)
  have written := written_of_mayRun replaced
  rw [run_load?, written, Except.toOption, Option.bind_some, Text.fromUTF8?_toUTF8,
    Option.bind_some]
  exact (restores 126 sized).readsBack.2

end Settings

end InstrumentBench
