import InstrumentBench.CommandLine.Invocation
import InstrumentBench.Proofs.Outcome
import Mathlib.Tactic.Common

/-!
# Arguments are checked

Whatever a level is given by position has been accepted by one of its slots, in however many steps
the arguments were read (`positionals_of_readFrom`).  So a task never has to do with a file without
a name (`workbook_ne_empty`).
-/

namespace InstrumentBench.CommandLine

variable {level : Level} {given next : Given}

theorem orMisuse_eq_ok {α : Type} {result : Option α} {value : α} :
    orMisuse level result = .ok value ↔ result = some value := by
  cases result <;> simp [orMisuse]

namespace Given

/-- What has been given by position has been accepted, and what waits is for a slot of the level. -/
structure Fits (level : Level) (given : Given) : Prop where
  accepted : ∀ text ∈ given.positionals, ∃ slot ∈ level.slots, slot.rule.accepts text
  waiting : ∀ slot value, given.waiting = .positional slot value → slot ∈ level.slots

theorem fits_none (level : Level) : none.Fits level where
  accepted := List.forall_mem_nil _
  waiting := nofun

namespace Fits

theorem add (fits : given.Fits level) {setting : Setting} {value : String}
    (added : given.add? setting value = some next) : next.Fits level := by
  rw [add?] at added
  split at added <;> cases added
  exact ⟨fits.accepted, nofun⟩

theorem settle (fits : given.Fits level) (settled : given.settle? = some next) :
    next.Fits level := by
  rw [settle?] at settled
  split at settled
  next =>
    cases settled
    exact fits
  next => cases settled
  next setting value _ =>
    split at settled
    next => exact fits.add settled
    next => cases settled
  next slot value waits =>
    split at settled
    next accepts =>
      cases settled
      refine ⟨?_, nofun⟩
      rw [List.forall_mem_append, List.forall_mem_singleton]
      exact ⟨fits.accepted, slot, fits.waiting slot value waits, accepts⟩
    next => cases settled

theorem wait (fits : given.Fits level) {waiting : Waiting}
    (slots : ∀ slot value, waiting = .positional slot value → slot ∈ level.slots) :
    Fits level { given with waiting := waiting } :=
  ⟨fits.accepted, slots⟩

theorem readLong (fits : given.Fits level) {name : String} {value : Option String}
    (read : CommandLine.readLong level given name value = .ok next) : next.Fits level := by
  unfold CommandLine.readLong at read
  split at read
  next =>
    split at read
    next => cases read
    next =>
      obtain ⟨settled, earlier, last⟩ := Option.bind_eq_some_iff.1 (orMisuse_eq_ok.1 read)
      exact ((fits.settle earlier).wait fun _ _ waits => by cases waits).settle last
  next =>
    obtain ⟨settled, earlier, last⟩ := Option.bind_eq_some_iff.1 (orMisuse_eq_ok.1 read)
    split at last
    next => exact (fits.settle earlier).add last
    next =>
      cases last
      exact (fits.settle earlier).wait fun _ _ waits => by cases waits
  next => split at read <;> [cases read; split at read <;> cases read]
  next => cases read

theorem readPositional (fits : given.Fits level) {argument : String}
    (read : CommandLine.readPositional level given argument = .ok next) : next.Fits level := by
  rw [CommandLine.readPositional] at read
  split at read
  next => cases read
  next slot others free =>
    obtain ⟨settled, earlier, rfl⟩ := Option.map_eq_some_iff.1 (orMisuse_eq_ok.1 read)
    refine (fits.settle earlier).wait fun _ _ same => ?_
    cases same
    exact List.mem_of_mem_drop (free ▸ List.mem_cons_self)

theorem finish (fits : given.Fits level) {chosen : Bool}
    (finished : CommandLine.finish level chosen given = .ok next) : next.Fits level := by
  obtain ⟨settled, earlier, last⟩ := Option.bind_eq_some_iff.1 (orMisuse_eq_ok.1 finished)
  split at last <;> cases last
  exact fits.settle earlier

end Fits

end Given

/-- What is given on the levels that arguments choose fits them. -/
theorem fits_of_readFrom {divided : Bool} {arguments : List String}
    {chosen : List (Level × Given)} (fits : given.Fits level)
    (read : readFrom level given divided arguments = .ok chosen) :
    ∀ entry ∈ chosen, entry.2.Fits entry.1 := by
  fun_induction readFrom level given divided arguments generalizing chosen
  case case1 level given =>
    obtain ⟨last, finished, same⟩ := Outcome.bind_eq_ok.1 read
    obtain rfl := Outcome.pure_eq_ok.1 same
    exact List.forall_mem_singleton.2 (fits.finish finished)
  case case2 ih =>
    obtain ⟨below, later, read⟩ := Outcome.bind_eq_ok.1 read
    obtain ⟨here, finished, same⟩ := Outcome.bind_eq_ok.1 read
    obtain rfl := Outcome.pure_eq_ok.1 same
    exact List.forall_mem_cons.2 ⟨fits.finish finished, ih (Given.fits_none _) later⟩
  case case3 ih =>
    obtain ⟨next, positional, later⟩ := Outcome.bind_eq_ok.1 read
    exact ih next (fits.readPositional positional) later
  case case4 => cases read
  case case5 ih => exact ih fits read
  case case6 ih =>
    obtain ⟨next, option, later⟩ := Outcome.bind_eq_ok.1 read
    exact ih next (fits.readLong option) later
  case case7 => cases read
  case case8 ih => exact ih (fits.wait fun _ _ waits => by cases waits) read
  case case9 ih =>
    obtain ⟨next, positional, later⟩ := Outcome.bind_eq_ok.1 read
    exact ih next (fits.readPositional positional) later

/-- One task alone remembers a workbook, and its path is what was given. -/
theorem task?_eq_workbook {path : String}
    (means : task? level given = some (.changeSettings (.workbook path))) :
    level = .setWorkbook ∧ given.positionals = [path] := by
  unfold task? at means
  split at means
  case h_11 positionals =>
    cases means
    exact ⟨rfl, positionals⟩
  case h_12 =>
    obtain ⟨enabled, -, same⟩ := Option.map_eq_some_iff.1 means
    cases same
  all_goals cases means

/-- A workbook that is to be remembered has a name. -/
theorem workbook_ne_empty {arguments : List String} {invocation : Invocation} {path : String}
    (read : Invocation.read arguments = .ok invocation)
    (task : invocation.task = .changeSettings (.workbook path)) : path ≠ "" := by
  obtain ⟨chosen, levels, read⟩ := Outcome.bind_eq_ok.1 read
  obtain ⟨given, means, same⟩ := Outcome.bind_eq_ok.1 read
  obtain rfl := Outcome.pure_eq_ok.1 same
  obtain ⟨⟨level, last⟩, found, means⟩ := Option.bind_eq_some_iff.1 (orMisuse_eq_ok.1 means)
  have fits := fits_of_readFrom (Given.fits_none .program) levels _ (List.mem_of_getLast? found)
  obtain rfl : given = _ := task
  obtain ⟨rfl, positionals⟩ := task?_eq_workbook means
  obtain ⟨slot, among, accepts⟩ := fits.accepted path (positionals ▸ List.mem_singleton_self path)
  cases List.mem_singleton.1 among
  exact of_decide_eq_true accepts

end InstrumentBench.CommandLine
