import InstrumentBench.Proofs.Command.CellPrinting
import InstrumentBench.Proofs.Command.Rendering

/-!
# Bare values

A bare value stands for the value of the only parameter, but it is trimmed before the parameter
sees it, and a blank one counts as none.  Parameters that trim by themselves do not notice.  A
choice does: its options are compared as they are given, so that a bare value counts as the same
value given by name exactly if it has no blanks around it and is not blank
(`Definition.render_single`).
-/

namespace InstrumentBench

theorem Text.trimmed_trimmed (text : String) : trimmed (trimmed text) = trimmed text := by
  rw [trimmed, toList_trimmed, trim_trim, ← trimmed]

namespace Parameter

variable {parameter : Parameter} {value : String}

/-- A value that a parameter takes for the same with the blanks around it and without: any value,
unless the parameter is a choice. -/
def TakesBare (parameter : Parameter) (value : String) : Prop :=
  ∀ options, parameter.kind = .choice options →
    ¬Text.allBlank value ∧ Text.trimmed value = value

theorem present?_present? (raw : Option String) : present? (present? raw) = present? raw := by
  cases raw with
  | none => rfl
  | some text =>
    by_cases blank : Text.trimmed text = ""
    · rw [present?, if_pos blank]
      rfl
    · rw [present?, if_neg blank, present?, Text.trimmed_trimmed, if_neg blank]

theorem format_present?_of_takesBare (takes : parameter.TakesBare value) :
    parameter.format (present? (some value)) = parameter.format (some value) := by
  obtain ⟨name, kind⟩ := parameter
  cases kind with
  | free => rw [format, format, present?_present?]
  | fixed places => rw [format, format, present?_present?]
  | choice options =>
    obtain ⟨some, tight⟩ := takes options rfl
    rw [← Text.trimmed_eq_empty, tight] at some
    rw [present?, tight, if_neg some]

/-- No option is blank or has blanks around it. -/
theorem WellFormed.takesBare_of_option (wellFormed : parameter.WellFormed) {options : List String}
    (kind : parameter.kind = .choice options) (member : value ∈ options) :
    parameter.TakesBare value := by
  have items := wellFormed.kind
  rw [kind] at items
  have item := items.2.2 value member
  have tight : Text.trimmed value = value := by
    rw [Text.trimmed, item.trim_toList, String.ofList_toList]
  refine fun _ _ => ⟨?_, tight⟩
  rw [← Text.trimmed_eq_empty, tight, ← String.toList_eq_nil_iff]
  exact item.toList_ne_nil

end Parameter

namespace Definition

variable {definition : Definition} {parameter : Parameter}

/-- A command with one parameter is rendered by what its parameter is given. -/
theorem render_congr_of_only (only : definition.parameters = [parameter]) {values other : Values}
    (same : parameter.format (other.find? parameter.name) =
      parameter.format (values.find? parameter.name)) :
    definition.render other = definition.render values := by
  rw [render, render, only, formatAll, formatAll, same]
  rfl

theorem render_eq_error_of_only (wellFormed : definition.WellFormed)
    (only : definition.parameters = [parameter]) {values : Values} {error : RenderError} :
    definition.render values = .error error ↔
      parameter.format (values.find? parameter.name) = .error error := by
  rw [render_eq_error wellFormed, only, formatAll, Outcome.bind_eq_error]
  constructor
  · rintro (failed | ⟨text, -, failed⟩)
    · exact failed
    · cases failed
  · exact .inl

/-- The only parameter is given a bare value without the blanks around it, or nothing. -/
theorem find?_resolve_single (only : definition.parameters = [parameter]) (command value : String) :
    ((Request.single command value).resolve definition).find? parameter.name =
      Parameter.present? (some value) := by
  have unnamed : (Request.single command value).values.isEmpty = true := rfl
  have bare : (Request.single command value).value = some value := rfl
  rw [Request.resolve, if_pos unnamed, bare, only]
  cases Parameter.present? (some value) with
  | none => rfl
  | some text => exact (Bindings.find?_bind _ _ _ _).trans (if_pos rfl)

/-- A bare value for the only parameter counts as the same value given by name exactly if the
parameter does not tell them apart. -/
theorem render_single_eq_iff (wellFormed : definition.WellFormed)
    (only : definition.parameters = [parameter]) (listed : parameter.WellFormed)
    (command value : String) :
    definition.render ((Request.single command value).resolve definition) =
        definition.render (Bindings.empty.bind parameter.name value) ↔
      parameter.TakesBare value := by
  have bare := find?_resolve_single only command value
  have named : (Bindings.empty.bind parameter.name value).find? parameter.name = some value :=
    (Bindings.find?_bind _ _ _ _).trans (if_pos rfl)
  constructor
  · intro same
    by_contra takesNot
    -- Only a choice tells them apart, and it repeats the value that it refuses.
    obtain ⟨options, kind⟩ : ∃ options, parameter.kind = .choice options := by
      by_contra noChoice
      exact takesNot fun options kind => absurd ⟨options, kind⟩ noChoice
    have refused : parameter.format (some value) =
        .error (.notAnOption parameter.name value options) := by
      rw [Parameter.format, kind]
      exact if_neg fun member => takesNot (listed.takesBare_of_option kind member)
    rw [← named, ← render_eq_error_of_only wellFormed only, ← same,
      render_eq_error_of_only wellFormed only, bare, Parameter.format, kind] at refused
    cases present : Parameter.present? (some value) with
    | none => simp [present] at refused
    | some text =>
      rw [present] at refused
      dsimp only at refused
      split at refused
      next => cases refused
      next =>
        obtain ⟨_, same, some, tight⟩ := Parameter.present?_eq_some.1 present
        cases same
        cases refused
        exact takesNot fun _ _ => ⟨some, tight⟩
  · intro takes
    apply render_congr_of_only only
    rw [bare, named, Parameter.format_present?_of_takesBare takes]

/-- The bare value counts only for a command with one parameter, and only if no value is given by
name. -/
theorem resolve_congr {request : Request} (unused : request.values.isEmpty = false ∨
      definition.parameters.length ≠ 1) (value : Option String) :
    ({ request with value := value } : Request).resolve definition =
      request.resolve definition := by
  have ignored : ∀ value : Option String,
      ({ request with value := value } : Request).resolve definition = request.values := by
    intro value
    unfold Request.resolve
    dsimp only
    split
    next unnamed =>
      split
      next only =>
        rw [only] at unused
        simp [unnamed] at unused
      next => rfl
    next => rfl
  exact (ignored value).trans (ignored request.value).symm

/-- A bare value for a compiled command with one parameter is rendered like the same value given by
name, with the same error if it is refused, exactly if the parameter is no choice or the value is
neither blank nor has blanks around it.  For any other command, and where values are given by name,
the bare value does not matter. -/
theorem render_single {row : Row} (compiled : row.compile = .ok definition) :
    (∀ parameter, definition.parameters = [parameter] → ∀ command value,
      definition.render ((Request.single command value).resolve definition) =
          definition.render (Bindings.empty.bind parameter.name value) ↔
        parameter.TakesBare value) ∧
    ∀ request : Request,
      request.values.isEmpty = false ∨ definition.parameters.length ≠ 1 → ∀ value,
        definition.render (({ request with value := value } : Request).resolve definition) =
          definition.render (request.resolve definition) := by
  have wellFormed := Row.wellFormed_of_compile compiled
  have listed := (ParameterCell.read_eq_ok.1 (Row.compile_eq_ok.1 compiled).2.2.2.1).wellFormed
  refine ⟨fun parameter only command value => ?_, fun request unused value => ?_⟩
  · have each := listed.each parameter (only ▸ List.mem_singleton_self parameter)
    exact render_single_eq_iff wellFormed only each command value
  · rw [resolve_congr unused]

/-- A choice finds its option in a bare value with blanks around it, though not in the same value
given by name. -/
theorem render_single_choice :
    let off : Request := ⟨"Output", .ofList [("S", "OFF")], none⟩
    ∃ definition : Definition,
      Row.compile ⟨"Output", "set", "OUTP \x7bS\x7d", "S:ON;OFF"⟩ = .ok definition ∧
      definition.render ((Request.single "Output" "ON").resolve definition) =
        definition.render (Bindings.empty.bind "S" "ON") ∧
      definition.render ((Request.single "Output" " ON ").resolve definition) ≠
        definition.render (Bindings.empty.bind "S" " ON ") ∧
      definition.render ({ off with value := some "ON" }.resolve definition) =
        definition.render (off.resolve definition) := by
  intro off
  let definition : Definition :=
    { name := "Output"
      direction := .set
      template := ⟨"OUTP \x7bS\x7d", [.literal "OUTP ", .placeholder "S"]⟩
      parameters := [⟨"S", .choice ["ON", "OFF"]⟩] }
  have compiled : Row.compile ⟨"Output", "set", "OUTP \x7bS\x7d", "S:ON;OFF"⟩ =
      .ok definition := rfl
  obtain ⟨alike, unused⟩ := render_single compiled
  have tight : (⟨"S", .choice ["ON", "OFF"]⟩ : Parameter).TakesBare "ON" :=
    fun _ _ => ⟨by decide, by decide⟩
  refine ⟨definition, compiled, (alike _ rfl _ _).2 tight, fun same => ?_, ?_⟩
  · have bare := (alike _ rfl "Output" " ON ").1 same _ rfl
    exact absurd bare.2 (by decide)
  · exact unused off (.inl rfl) (some "ON")

end Definition

end InstrumentBench
