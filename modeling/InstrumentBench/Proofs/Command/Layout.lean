import InstrumentBench.Command.Layout
import InstrumentBench.Proofs.Command.Acceptance
import InstrumentBench.Proofs.Command.Rendering

/-!
# What the controls of a command let in

The controls of a compiled command and its rendering are two readings of the same parameters.
A control accepts exactly what its parameter does (`accepts_controlFor`), so that the inputs
with which a command is rendered can be told from its layout alone (`ofDefinition_agrees`).
-/

namespace InstrumentBench

/-- Whether an input suits a control: one of the options of a selector, a text that is not
blank, or, where decimal places are given, a text that spells a finite number. -/
def Control.Accepts (control : Control) (input : Option String) : Prop :=
  match control with
  | .selector _ options _ => ∃ text, input = some text ∧ text ∈ options
  | .textEntry _ _ none => ∃ text, input = some text ∧ ¬Text.allBlank text
  | .textEntry _ _ (some _) => ∃ text, input = some text ∧
      ∃ number, Decimal.Binary64.read? (Text.trim text.toList) = some number

/-- A blank text spells no number. -/
theorem Decimal.not_allBlank_of_read? {text : String} {number : Binary64}
    (spelled : Binary64.read? (Text.trim text.toList) = some number) : ¬Text.allBlank text := by
  intro blank
  have nothing : Text.trim text.toList = [] := by
    rw [Text.trim_eq_nil]
    exact List.all_eq_true.1 blank
  rw [nothing] at spelled
  cases spelled

/-- A template without placeholders is filled with nothing. -/
theorem Template.Spells.join_of_literal {text : List Char} {segments : List Segment}
    (spelled : Spells text segments) (literal : ∀ name, .placeholder name ∉ segments)
    (value : String → String) :
    String.join (segments.map (Segment.filled value)) = String.ofList text := by
  cases spelled with
  | text braceless =>
    rw [Segment.ofText]
    split
    next empty =>
      subst empty
      rfl
    next => simp [Segment.filled]
  | placeholder braceless inside named spelled =>
    exact absurd (List.mem_append_right _ List.mem_cons_self) (literal _)

namespace Definition

variable {definition : Definition}

/-- A command without parameters is its template. -/
theorem render_of_parameterless {row : Row} (compiled : row.compile = .ok definition)
    (none : definition.parameters = []) (values : Values) :
    definition.render values =
      .ok ⟨definition.template.source, definition.direction, definition.template.source⟩ := by
  have wellFormed := Row.wellFormed_of_compile compiled
  obtain ⟨-, ⟨source, -, scanned⟩, -⟩ := Row.compile_eq_ok.1 compiled
  obtain ⟨rfl, spelled⟩ := Row.readTemplate_eq_ok.1 scanned
  have literal : ∀ name, .placeholder name ∉ definition.template.segments := by
    intro name mentioned
    have declared := (wellFormed.bound name).1 (Template.mem_mentions.2 mentioned)
    rw [parameterNames, none] at declared
    cases declared
  have renders : ∃ rendered, definition.render values = .ok rendered := by
    rw [exists_render_eq_ok wellFormed, none]
    exact List.forall_mem_nil _
  obtain ⟨rendered, given⟩ := renders
  obtain ⟨value, -, rfl⟩ := render_eq_ok wellFormed given
  rw [given, spelled.join_of_literal literal, String.ofList_toList]

end Definition

namespace Layout

variable {definition : Definition}

/-- A control fills the parameter that it was made for. -/
@[simp] theorem parameter_controlFor (parameter : Parameter) (default : Option String) :
    (controlFor parameter default).parameter = parameter.name := by
  rw [controlFor]
  cases parameter.kind <;> rfl

/-- A control lets in what its parameter accepts. -/
theorem accepts_controlFor (parameter : Parameter) (default input : Option String) :
    (controlFor parameter default).Accepts input ↔ parameter.Accepts input := by
  rw [controlFor, Parameter.Accepts]
  cases parameter.kind with
  | free => exact Iff.rfl
  | choice options => exact Iff.rfl
  | fixed places =>
    change (∃ text, input = some text ∧ ∃ number, _) ↔ _
    constructor
    · rintro ⟨text, given, number, spelled⟩
      exact ⟨text, given, Decimal.not_allBlank_of_read? spelled, number, spelled⟩
    · rintro ⟨text, given, -, spelled⟩
      exact ⟨text, given, spelled⟩

/-- What the controls of a command let in is what its parameters accept. -/
theorem forall_accepts_iff (definition : Definition) (defaults : Bindings String)
    (values : Values) :
    (∀ control ∈ (ofDefinition definition defaults).controls,
        control.Accepts (values.find? control.parameter)) ↔
      ∀ parameter ∈ definition.parameters, parameter.Accepts (values.find? parameter.name) := by
  change (∀ control ∈ definition.parameters.map _, _) ↔ _
  rw [List.forall_mem_map]
  simp only [parameter_controlFor, accepts_controlFor]

/-- An option selected beforehand is the default given for a parameter, and one of its
options. -/
theorem exists_of_selector {defaults : Bindings String} {name default : String}
    {options : List String}
    (shown : .selector name options (some default) ∈ (ofDefinition definition defaults).controls) :
    defaults.find? name = some default ∧ default ∈ options ∧
      ⟨name, .choice options⟩ ∈ definition.parameters := by
  obtain ⟨⟨own, kind⟩, member, made⟩ := List.mem_map.1 shown
  cases kind with
  | free => cases made
  | fixed places => cases made
  | choice listed =>
    simp only [controlFor, Control.selector.injEq] at made
    obtain ⟨rfl, rfl, selected⟩ := made
    obtain ⟨given, allowed⟩ := Option.filter_eq_some_iff.1 selected
    exact ⟨given, by simpa using allowed, member⟩

/-- No inputs are asked for exactly if the command can be rendered without any. -/
theorem firesImmediately_iff {row : Row} (compiled : row.compile = .ok definition)
    (defaults : Bindings String) :
    (ofDefinition definition defaults).firesImmediately ↔
      ∃ rendered, definition.render .empty = .ok rendered := by
  change (definition.parameters.map _).isEmpty ↔ _
  rw [List.isEmpty_map]
  cases declared : definition.parameters with
  | nil =>
    apply iff_of_true rfl
    exact ⟨_, Definition.render_of_parameterless compiled declared _⟩
  | cons parameter rest =>
    apply iff_of_false Bool.false_ne_true
    rw [Definition.exists_render_eq_ok (Row.wellFormed_of_compile compiled), declared]
    intro all
    have missing := all parameter List.mem_cons_self
    rw [Bindings.find?_empty, Parameter.Accepts] at missing
    -- no kind of parameter accepts a missing value
    split at missing <;> obtain ⟨text, given, -⟩ := missing <;> cases given

/-- The layout of a compiled command and its rendering agree.  There is one control for each
parameter, in column order.  The command is sent straight away exactly if it can be rendered
without values, and is then its template.  Values are rendered exactly if each control lets in
what they give for its parameter; an option selected beforehand is let in. -/
theorem ofDefinition_agrees {row : Row} (compiled : row.compile = .ok definition)
    (defaults : Bindings String) :
    let layout := ofDefinition definition defaults
    layout.parameters = definition.parameterNames ∧ layout.parameters.Nodup ∧
      (layout.firesImmediately ↔ ∃ rendered, definition.render .empty = .ok rendered) ∧
      (layout.firesImmediately → definition.render .empty =
        .ok ⟨definition.template.source, definition.direction, definition.template.source⟩) ∧
      (∀ values, (∃ rendered, definition.render values = .ok rendered) ↔
        ∀ control ∈ layout.controls, control.Accepts (values.find? control.parameter)) ∧
      ∀ name options default, .selector name options (some default) ∈ layout.controls →
        defaults.find? name = some default ∧ default ∈ options ∧
          ∀ values : Values, (∀ control ∈ layout.controls, control.parameter ≠ name →
              control.Accepts (values.find? control.parameter)) →
            ∃ rendered, definition.render (values.bind name default) = .ok rendered := by
  intro layout
  have wellFormed := Row.wellFormed_of_compile compiled
  have names : layout.parameters = definition.parameterNames := parameters_ofDefinition _ _
  have renders : ∀ values, (∃ rendered, definition.render values = .ok rendered) ↔
      ∀ control ∈ layout.controls, control.Accepts (values.find? control.parameter) := by
    intro values
    rw [Definition.exists_render_eq_ok wellFormed, forall_accepts_iff]
  refine ⟨names, ?distinct, firesImmediately_iff compiled defaults, ?fires, renders, ?selected⟩
  case distinct =>
    rw [names]
    exact wellFormed.distinct
  case fires =>
    intro fires
    apply Definition.render_of_parameterless compiled
    exact List.map_eq_nil_iff.1 (List.isEmpty_iff.1 fires)
  case selected =>
    intro name options default shown
    obtain ⟨given, allowed, declared⟩ := exists_of_selector shown
    refine ⟨given, allowed, fun values others => (renders _).2 fun control member => ?_⟩
    rw [Bindings.find?_bind]
    split
    next own =>
      -- the control is the selector, no other parameter having its name
      obtain ⟨parameter, inList, rfl⟩ := List.mem_map.1 member
      rw [parameter_controlFor] at own
      obtain rfl := List.inj_on_of_nodup_map wellFormed.distinct declared inList own
      exact ⟨default, rfl, allowed⟩
    next other => exact others control member (Ne.symm other)

/-- The range that is selected beforehand is let in, once a voltage has been given. -/
theorem ofDefinition_agrees_selected :
    let defaults : Bindings String := Bindings.empty.bind "R" "AUTO"
    let values : Values := Bindings.empty.bind "V" " 2.5 "
    ∃ definition,
      Row.compile ⟨"Range", "SET", "RANGE \x7bR\x7d,\x7bV\x7d", "R:AUTO;1 | V:V.2f"⟩ =
        .ok definition ∧
      (ofDefinition definition defaults).controls =
        [.selector "R" ["AUTO", "1"] (some "AUTO"), .textEntry "V" "V" (some 2)] ∧
      ∃ rendered, definition.render (values.bind "R" "AUTO") = .ok rendered := by
  intro defaults values
  let definition : Definition :=
    { name := "Range"
      direction := .set
      template := ⟨"RANGE \x7bR\x7d,\x7bV\x7d",
        [.literal "RANGE ", .placeholder "R", .literal ",", .placeholder "V"]⟩
      parameters := [⟨"R", .choice ["AUTO", "1"]⟩, ⟨"V", .fixed 2⟩] }
  have compiled : Row.compile ⟨"Range", "SET", "RANGE \x7bR\x7d,\x7bV\x7d",
      "R:AUTO;1 | V:V.2f"⟩ = .ok definition := rfl
  have controls : (ofDefinition definition defaults).controls =
      [.selector "R" ["AUTO", "1"] (some "AUTO"), .textEntry "V" "V" (some 2)] := by decide
  obtain ⟨-, -, -, -, -, selected⟩ := ofDefinition_agrees compiled defaults
  have shown : .selector "R" ["AUTO", "1"] (some "AUTO") ∈
      (ofDefinition definition defaults).controls := by
    rw [controls]
    exact List.mem_cons_self
  refine ⟨definition, compiled, controls, (selected _ _ _ shown).2.2 values ?_⟩
  rw [controls]
  intro control member other
  rcases List.mem_cons.1 member with rfl | member
  · exact absurd rfl other
  · obtain rfl := List.mem_singleton.1 member
    exact ⟨" 2.5 ", rfl, _, rfl⟩

end Layout

end InstrumentBench
