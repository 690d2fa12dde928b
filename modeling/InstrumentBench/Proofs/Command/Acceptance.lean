import InstrumentBench.Proofs.Command.Compilation
import InstrumentBench.Proofs.Command.Direction
import InstrumentBench.Proofs.Command.ParameterCell
import InstrumentBench.Proofs.Command.Template
import InstrumentBench.Proofs.Text.NameSet

/-!
# Which rows compile

A row compiles exactly if it satisfies six conditions, and of those that it violates the
first is reported.  Blanks around the cells make no difference, not even to the offsets in
the errors.

Every step of the compilation has a lemma for its success and one for its failure;
`compile_eq_ok_iff` and `violation_of_compile_eq_error` put them together.
-/

namespace InstrumentBench.Row

/-- What a row has to satisfy to be compiled. -/
inductive Condition where
  | named
  | templated
  | directed
  | scanned
  | listed
  | bound
  deriving DecidableEq, Repr

/-- The order in which violations are reported. -/
def Condition.inOrder : List Condition :=
  [named, templated, directed, scanned, listed, bound]

/-- The template and the parameters use the same names. -/
def SameNames (segments : List Segment) (parameters : List Parameter) : Prop :=
  ∀ name, .placeholder name ∈ segments ↔ name ∈ parameters.map Parameter.name

/-- Whether a row satisfies a condition. -/
def Meets (row : Row) : Condition → Prop
  | .named => Text.trim row.name.toList ≠ []
  | .templated => Text.trim row.template.toList ≠ []
  | .directed => ∃ direction, Direction.Spells (Text.trim row.direction.toList) direction
  | .scanned => ∃ segments, Template.Spells (Text.trim row.template.toList) segments
  | .listed => ∃ parameters, ParameterCell.Spells row.parameters.toList parameters
  | .bound => ∃ segments parameters, Template.Spells (Text.trim row.template.toList) segments ∧
      ParameterCell.Spells row.parameters.toList parameters ∧ SameNames segments parameters

/-- Whether an error says how a row violates a condition. -/
def Reports (row : Row) : Condition → DescriptorError → Prop
  | .named, error => error = .missingColumn "Name"
  | .templated, error => error = .missingColumn "CMD"
  | .directed, error => error = .invalidDirection (Text.trimmed row.direction)
  | .scanned, error => ∃ flaw, Template.read (Text.trimmed row.template) = .error flaw ∧
      error = .malformedTemplate flaw.offset flaw.fault
  | .listed, error => ParameterCell.read row.parameters = .error error ∧
      (error.code = "MalformedParameterSpec" ∨ error.code = "DuplicateParameterName")
  | .bound, error => ∃ segments parameters placeholders declared,
      Template.Spells (Text.trim row.template.toList) segments ∧
      ParameterCell.Spells row.parameters.toList parameters ∧
      error = .bindingMismatch placeholders declared ∧
      placeholders.SortedLT ∧ (∀ name, name ∈ placeholders ↔ .placeholder name ∈ segments) ∧
      declared.SortedLT ∧ ∀ name, name ∈ declared ↔ name ∈ parameters.map Parameter.name

/-- The row with blanks put around its cells, those of one row before them and those of
another after them. -/
def padded (row before after : Row) : Row where
  name := before.name ++ row.name ++ after.name
  direction := before.direction ++ row.direction ++ after.direction
  template := before.template ++ row.template ++ after.template
  parameters := before.parameters ++ row.parameters ++ after.parameters

/-! ## The steps of the compilation -/

section Steps

variable {row : Row} {cell column : String} {error : DescriptorError} {template : Template}
  {parameters : List Parameter}

theorem trimmed_eq_empty_iff : Text.trimmed cell = "" ↔ Text.trim cell.toList = [] := by
  rw [Text.trimmed, String.ofList_eq_empty_iff]

theorem required_eq_ok {text : String} :
    required column cell = .ok text ↔ Text.trim cell.toList ≠ [] ∧ text = Text.trimmed cell := by
  rw [required, ne_eq, ← trimmed_eq_empty_iff]
  by_cases blank : Text.trimmed cell = "" <;> simp [blank, eq_comm]

theorem required_eq_error :
    required column cell = .error error ↔
      Text.trim cell.toList = [] ∧ error = .missingColumn column := by
  rw [required, ← trimmed_eq_empty_iff]
  by_cases blank : Text.trimmed cell = "" <;> simp [blank, eq_comm]

theorem readDirection_eq_ok {direction : Direction} :
    readDirection cell = .ok direction ↔ Direction.Spells (Text.trim cell.toList) direction := by
  rw [← Direction.ofWord?_eq_some, readDirection, Direction.read?]
  cases Direction.ofWord? (Text.trim cell.toList) <;> simp

theorem readDirection_eq_error :
    readDirection cell = .error error ↔
      (¬∃ direction, Direction.Spells (Text.trim cell.toList) direction) ∧
        error = .invalidDirection (Text.trimmed cell) := by
  simp only [← Direction.ofWord?_eq_some]
  rw [readDirection, Direction.read?]
  cases Direction.ofWord? (Text.trim cell.toList) <;> simp [eq_comm]

theorem readTemplate_eq_ok :
    readTemplate cell = .ok template ↔
      template.source = cell ∧ Template.Spells cell.toList template.segments := by
  rw [← Template.read_eq_ok, readTemplate]
  cases Template.read cell <;> simp

theorem readTemplate_eq_error :
    readTemplate cell = .error error ↔
      ∃ flaw, Template.read cell = .error flaw ∧
        error = .malformedTemplate flaw.offset flaw.fault := by
  rw [readTemplate]
  cases Template.read cell <;> simp [eq_comm]

/-- A template with a flaw is not well-formed. -/
theorem not_spells_of_read_eq_error {flaw : Template.Flaw}
    (flawed : Template.read cell = .error flaw) :
    ¬∃ segments, Template.Spells cell.toList segments := by
  rintro ⟨segments, spelled⟩
  have read : Template.read cell = .ok ⟨cell, segments⟩ := Template.read_eq_ok.2 ⟨rfl, spelled⟩
  cases flawed.symm.trans read

/-- A parameter cell that cannot be read is not well-formed. -/
theorem not_spells_of_listed_eq_error (failed : ParameterCell.read cell = .error error) :
    ¬∃ parameters, ParameterCell.Spells cell.toList parameters := by
  rintro ⟨parameters, spelled⟩
  cases failed.symm.trans (ParameterCell.read_eq_ok.2 spelled)

theorem names_eq_iff :
    template.names = Text.nameSet (parameters.map Parameter.name) ↔
      SameNames template.segments parameters := by
  rw [Template.names, Text.nameSet_eq_nameSet]
  simp only [Template.mem_mentions, SameNames]

theorem checkBindings_eq_ok :
    checkBindings template parameters = .ok () ↔ SameNames template.segments parameters := by
  rw [← names_eq_iff, checkBindings]
  split
  next same => simp [same]
  next different => simp [different]

theorem checkBindings_eq_error :
    checkBindings template parameters = .error error ↔
      ¬SameNames template.segments parameters ∧
        error = .bindingMismatch template.names
          (Text.nameSet (parameters.map Parameter.name)) := by
  rw [← names_eq_iff, checkBindings]
  split
  next same => simp [same]
  next different => simp [different, eq_comm]

end Steps

/-! ## The whole compilation -/

/-- The cells of a row spell the parts of a definition. -/
structure Spells (row : Row) (definition : Definition) : Prop where
  named : Text.trim row.name.toList ≠ []
  name : definition.name = Text.trimmed row.name
  templated : Text.trim row.template.toList ≠ []
  source : definition.template.source = Text.trimmed row.template
  direction : Direction.Spells (Text.trim row.direction.toList) definition.direction
  segments : Template.Spells (Text.trim row.template.toList) definition.template.segments
  parameters : ParameterCell.Spells row.parameters.toList definition.parameters
  bound : SameNames definition.template.segments definition.parameters

variable {row : Row} {definition : Definition} {error : DescriptorError}

theorem compile_eq_ok_iff : row.compile = .ok definition ↔ row.Spells definition := by
  rw [compile_eq_ok, required_eq_ok, readDirection_eq_ok, ParameterCell.read_eq_ok,
    checkBindings_eq_ok]
  simp only [required_eq_ok, readTemplate_eq_ok]
  constructor
  · rintro ⟨⟨named, name⟩, ⟨_, ⟨templated, rfl⟩, source, segments⟩, direction, parameters, bound⟩
    rw [Text.toList_trimmed] at segments
    exact ⟨named, name, templated, source, direction, segments, parameters, bound⟩
  · intro spelled
    have segments := spelled.segments
    rw [← Text.toList_trimmed] at segments
    exact ⟨⟨spelled.named, spelled.name⟩, ⟨_, ⟨spelled.templated, rfl⟩, spelled.source, segments⟩,
      spelled.direction, spelled.parameters, spelled.bound⟩

/-- A row that satisfies all conditions has a definition. -/
theorem spells_of_meets (meets : ∀ condition, row.Meets condition) :
    ∃ definition, row.Spells definition := by
  obtain ⟨direction, directed⟩ := meets .directed
  obtain ⟨segments, parameters, scanned, listed, bound⟩ := meets .bound
  exact ⟨⟨Text.trimmed row.name, direction, ⟨Text.trimmed row.template, segments⟩, parameters⟩,
    meets .named, rfl, meets .templated, rfl, directed, scanned, listed, bound⟩

theorem Spells.meets (spelled : row.Spells definition) (condition : Condition) :
    row.Meets condition := by
  cases condition with
  | named => exact spelled.named
  | templated => exact spelled.templated
  | directed => exact ⟨_, spelled.direction⟩
  | scanned => exact ⟨_, spelled.segments⟩
  | listed => exact ⟨_, spelled.parameters⟩
  | bound => exact ⟨_, _, spelled.segments, spelled.parameters, spelled.bound⟩

/-- An error says that a condition is violated which follows only satisfied ones. -/
theorem violation_of_compile_eq_error (failed : row.compile = .error error) :
    ∃ before violated after, Condition.inOrder = before ++ violated :: after ∧
      (∀ condition ∈ before, row.Meets condition) ∧ ¬row.Meets violated ∧
      row.Reports violated error := by
  rw [compile] at failed
  -- each step either fails, which settles the matter, or its condition is satisfied
  rcases Outcome.bind_eq_error.1 failed with unnamed | ⟨_, name, failed⟩
  · obtain ⟨blank, reported⟩ := required_eq_error.1 unnamed
    exact ⟨[], .named, _, rfl, by simp, not_not_intro blank, reported⟩
  have named : row.Meets .named := (required_eq_ok.1 name).1
  rcases Outcome.bind_eq_error.1 failed with untemplated | ⟨_, source, failed⟩
  · obtain ⟨blank, reported⟩ := required_eq_error.1 untemplated
    exact ⟨[.named], .templated, _, rfl, by simp [named], not_not_intro blank, reported⟩
  obtain ⟨some, rfl⟩ := required_eq_ok.1 source
  have templated : row.Meets .templated := some
  rcases Outcome.bind_eq_error.1 failed with undirected | ⟨direction, spelled, failed⟩
  · obtain ⟨unknown, reported⟩ := readDirection_eq_error.1 undirected
    exact ⟨[.named, .templated], .directed, _, rfl, by simp [named, templated], unknown, reported⟩
  have directed : row.Meets .directed := ⟨direction, readDirection_eq_ok.1 spelled⟩
  rcases Outcome.bind_eq_error.1 failed with unscanned | ⟨template, read, failed⟩
  · obtain ⟨flaw, flawed, reported⟩ := readTemplate_eq_error.1 unscanned
    have malformed := not_spells_of_read_eq_error flawed
    rw [Text.toList_trimmed] at malformed
    exact ⟨[.named, .templated, .directed], .scanned, _, rfl, by simp [named, templated, directed],
      malformed, flaw, flawed, reported⟩
  obtain ⟨-, segments⟩ := readTemplate_eq_ok.1 read
  rw [Text.toList_trimmed] at segments
  have scanned : row.Meets .scanned := ⟨_, segments⟩
  rcases Outcome.bind_eq_error.1 failed with unlisted | ⟨parameters, read, failed⟩
  · exact ⟨[.named, .templated, .directed, .scanned], .listed, _, rfl,
      by simp [named, templated, directed, scanned], not_spells_of_listed_eq_error unlisted,
      unlisted, ParameterCell.code_of_read_eq_error unlisted⟩
  have spelled := ParameterCell.read_eq_ok.1 read
  have listed : row.Meets .listed := ⟨parameters, spelled⟩
  rcases Outcome.bind_eq_error.1 failed with unbound | ⟨_, _, same⟩
  · obtain ⟨different, reported⟩ := checkBindings_eq_error.1 unbound
    refine ⟨[.named, .templated, .directed, .scanned, .listed], .bound, _, rfl,
      by simp [named, templated, directed, scanned, listed], ?_,
      template.segments, parameters, _, _, segments, spelled, reported,
      Text.sortedLT_nameSet _, fun name => ?_, Text.sortedLT_nameSet _, fun name => ?_⟩
    · rintro ⟨others, again, scannedAgain, listedAgain, bound⟩
      rw [← segments.unique scannedAgain, ← spelled.unique listedAgain] at bound
      exact different bound
    · exact Text.mem_nameSet.trans Template.mem_mentions
    · exact Text.mem_nameSet
  · cases same

/-- Blanks around the cells of a row make no difference. -/
theorem compile_padded {before after : Row} (blankBefore : before.isBlank)
    (blankAfter : after.isBlank) (row : Row) : (row.padded before after).compile = row.compile := by
  simp only [isBlank, Bool.and_eq_true] at blankBefore blankAfter
  obtain ⟨⟨⟨nameBefore, directionBefore⟩, templateBefore⟩, parametersBefore⟩ := blankBefore
  obtain ⟨⟨⟨nameAfter, directionAfter⟩, templateAfter⟩, parametersAfter⟩ := blankAfter
  have direction : Text.trim (row.padded before after).direction.toList =
      Text.trim row.direction.toList := by
    rw [← Text.toList_trimmed, ← Text.toList_trimmed, padded,
      Text.trimmed_padded directionBefore directionAfter]
  simp only [compile, required, readDirection, Direction.read?, direction]
  simp only [padded, Text.trimmed_padded nameBefore nameAfter,
    Text.trimmed_padded directionBefore directionAfter,
    Text.trimmed_padded templateBefore templateAfter,
    ParameterCell.read_padded parametersBefore parametersAfter]

/-- A row compiles exactly if it satisfies all conditions, and its cells then spell the
definition.  Otherwise the first violated condition is reported.  Blanks around the cells
make no difference to either. -/
theorem compile_conditions (row : Row) :
    ((∃ definition, row.compile = .ok definition) ↔ ∀ condition, row.Meets condition) ∧
    (∀ definition, row.compile = .ok definition ↔ row.Spells definition) ∧
    (∀ error, row.compile = .error error →
      ∃ before violated after, Condition.inOrder = before ++ violated :: after ∧
        (∀ condition ∈ before, row.Meets condition) ∧ ¬row.Meets violated ∧
        row.Reports violated error) ∧
    ∀ before after : Row, before.isBlank → after.isBlank →
      (row.padded before after).compile = row.compile := by
  refine ⟨?_, fun _ => compile_eq_ok_iff, fun _ => violation_of_compile_eq_error,
    fun _ _ blankBefore blankAfter => compile_padded blankBefore blankAfter row⟩
  simp only [compile_eq_ok_iff]
  exact ⟨fun ⟨_, spelled⟩ => spelled.meets, spells_of_meets⟩

/-- A row with blanks in all cells, of which the last is at fault: the mismatch is reported
with both sets. -/
example :
    Row.compile ⟨" Ramp", " set ", "RAMP \x7bA\x7d\x7bB\x7d", " B | C "⟩ =
      .error (.bindingMismatch ["A", "B"] ["B", "C"]) := by
  rfl

end InstrumentBench.Row
