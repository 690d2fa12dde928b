import InstrumentBench.Command.Definition
import InstrumentBench.Proofs.Command.ParameterCell

/-!
# Compiled commands

What the compilation of a row guarantees about the command: no two of its
parameters share a name, and the placeholders of its template are exactly its
parameters.  Rendering and layouts rest on nothing else.
-/

namespace InstrumentBench

/-- What every compiled command satisfies. -/
structure Definition.WellFormed (definition : Definition) : Prop where
  /-- No parameter is declared twice. -/
  distinct : definition.parameterNames.Nodup
  /-- The placeholders are the parameters. -/
  bound : ∀ name, name ∈ definition.template.mentions ↔ name ∈ definition.parameterNames

/-- The parameters read from a cell have different names. -/
theorem ParameterCell.distinct_of_read {cell : String} {parameters : List Parameter}
    (found : read cell = .ok parameters) : (parameters.map Parameter.name).Nodup :=
  (read_eq_ok.1 found).distinct

namespace Row

/-- A row compiles to a definition exactly when each of its parts is read as the
corresponding part of the definition. -/
theorem compile_eq_ok {row : Row} {definition : Definition} :
    row.compile = .ok definition ↔
      required nameColumn row.name = .ok definition.name ∧
        (∃ source, required templateColumn row.template = .ok source ∧
          readTemplate source = .ok definition.template) ∧
        readDirection row.direction = .ok definition.direction ∧
        ParameterCell.read row.parameters = .ok definition.parameters ∧
        checkBindings definition.template definition.parameters = .ok () := by
  rw [compile]
  simp only [Outcome.bind_eq_ok, Outcome.pure_eq_ok]
  constructor
  · rintro ⟨name, named, source, given, direction, directed, template, scanned, parameters,
      listed, ⟨⟩, checked, rfl⟩
    exact ⟨named, ⟨source, given, scanned⟩, directed, listed, checked⟩
  · rintro ⟨named, ⟨source, given, scanned⟩, directed, listed, checked⟩
    exact ⟨_, named, source, given, _, directed, _, scanned, _, listed, (), checked, rfl⟩

/-- A command that a row compiles to is well-formed. -/
theorem wellFormed_of_compile {row : Row} {definition : Definition}
    (compiled : row.compile = .ok definition) : definition.WellFormed := by
  obtain ⟨-, -, -, listed, checked⟩ := compile_eq_ok.1 compiled
  refine ⟨ParameterCell.distinct_of_read listed, fun name => ?_⟩
  unfold checkBindings at checked
  dsimp only at checked
  split at checked
  next same =>
    have members := congrArg (name ∈ ·) same
    simpa only [Template.names, Definition.parameterNames, Text.mem_nameSet, eq_iff_iff]
      using members
  next => cases checked

end Row

end InstrumentBench
