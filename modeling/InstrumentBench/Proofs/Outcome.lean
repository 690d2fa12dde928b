import Mathlib.Tactic.Common

/-!
# Outcomes of two steps

What a computation that may fail comes to, when it is one step followed by
another: a value if both steps give one, and else the error of the first step that
fails.
-/

namespace InstrumentBench.Outcome

variable {error α β : Type} {first : Except error α} {next : α → Except error β}

/-- Two steps give a value exactly when the first gives one with which the second
does. -/
theorem bind_eq_ok {result : β} :
    (first >>= next) = .ok result ↔ ∃ value, first = .ok value ∧ next value = .ok result := by
  cases first with
  | error fault => simp [bind, Except.bind]
  | ok value => simp [bind, Except.bind]

/-- Two steps fail exactly when the first fails, or the second with what the first
gives. -/
theorem bind_eq_error {fault : error} :
    (first >>= next) = .error fault ↔
      first = .error fault ∨ ∃ value, first = .ok value ∧ next value = .error fault := by
  cases first with
  | error fault => simp [bind, Except.bind]
  | ok value => simp [bind, Except.bind]

@[simp] theorem pure_eq_ok {value result : α} :
    (pure value : Except error α) = .ok result ↔ value = result := by
  simp [pure, Except.pure]

theorem map_eq_ok {change : α → β} {result : β} :
    first.map change = .ok result ↔ ∃ value, first = .ok value ∧ change value = result := by
  cases first with
  | error fault => simp [Except.map]
  | ok value => simp [Except.map]

theorem map_eq_error {change : α → β} {fault : error} :
    first.map change = .error fault ↔ first = .error fault := by
  cases first with
  | error fault => simp [Except.map]
  | ok value => simp [Except.map]

theorem mapError_eq_ok {fault : Type} {change : error → fault} {value : α} :
    first.mapError change = .ok value ↔ first = .ok value := by
  cases first with
  | error fault => simp [Except.mapError]
  | ok value => simp [Except.mapError]

end InstrumentBench.Outcome
