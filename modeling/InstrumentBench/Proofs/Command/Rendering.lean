import InstrumentBench.Command.Rendering
import InstrumentBench.Proofs.Command.Compilation
import InstrumentBench.Proofs.Command.Template
import InstrumentBench.Proofs.Text.Cutting

/-!
# What rendering gives

A compiled command is rendered exactly if every value suits the kind of its
parameter.  The text is then the template with each placeholder replaced by what
its parameter writes (`Parameter.Writes`), and no value is read again.  A failure is
that of the first parameter, in column order, whose value does not suit it
(`Parameter.Refuses`).
-/

namespace InstrumentBench

/-- Whether a given value suits the kind of the parameter. -/
def Parameter.Accepts (parameter : Parameter) (raw : Option String) : Prop :=
  match parameter.kind with
  | .free => ∃ text, raw = some text ∧ ¬Text.allBlank text
  | .fixed _ => ∃ text, raw = some text ∧ ¬Text.allBlank text ∧
      ∃ number, Decimal.Binary64.read? (Text.trim text.toList) = some number
  | .choice options => ∃ text, raw = some text ∧ text ∈ options

/-- The text of a segment when the placeholders have values. -/
def Segment.filled (value : String → String) : Segment → String
  | .literal text => text
  | .placeholder name => value name

namespace Parameter

theorem present?_eq_some {raw : Option String} {value : String} :
    present? raw = some value ↔
      ∃ text, raw = some text ∧ ¬Text.allBlank text ∧ Text.trimmed text = value := by
  cases raw with
  | none => simp [present?]
  | some text => simp [present?, Text.trimmed_eq_empty]

/-- What is written for a value: a text without the blanks around it, a number with its
decimal places, and an option as it is. -/
inductive Writes : ParameterKind → String → String → Prop where
  | free {text : String} (visible : ¬Text.allBlank text) : Writes .free text (Text.trimmed text)
  | fixed {places : Nat} {text written : String} (visible : ¬Text.allBlank text)
      (number : Decimal.fixed? places (Text.trimmed text) = some written) :
      Writes (.fixed places) text written
  | choice {options : List String} {text : String} (listed : text ∈ options) :
      Writes (.choice options) text text

/-- Why a value is refused for a parameter of this name. -/
inductive Refuses (name : String) : ParameterKind → Option String → RenderError → Prop where
  | absent {kind : ParameterKind} : Refuses name kind none (.missingValue name)
  | blankText {text : String} (blank : Text.allBlank text) :
      Refuses name .free (some text) (.missingValue name)
  | blankNumber {places : Nat} {text : String} (blank : Text.allBlank text) :
      Refuses name (.fixed places) (some text) (.missingValue name)
  | notANumber {places : Nat} {text : String} (visible : ¬Text.allBlank text)
      (unread : Decimal.fixed? places (Text.trimmed text) = none) :
      Refuses name (.fixed places) (some text) (.notANumber name (Text.trimmed text))
  | notAnOption {options : List String} {text : String} (unlisted : text ∉ options) :
      Refuses name (.choice options) (some text) (.notAnOption name text options)

theorem present?_of_blank {text : String} (blank : Text.allBlank text) :
    present? (some text) = none := by
  rw [present?, if_pos (Text.trimmed_eq_empty.2 blank)]

theorem present?_of_visible {text : String} (visible : ¬Text.allBlank text) :
    present? (some text) = some (Text.trimmed text) :=
  present?_eq_some.2 ⟨text, rfl, visible, rfl⟩

theorem format_of_writes {parameter : Parameter} {text written : String}
    (writes : Writes parameter.kind text written) :
    parameter.format (some text) = .ok written := by
  obtain ⟨name, kind⟩ := parameter
  cases writes with
  | free visible => rw [format, present?_of_visible visible]
  | fixed visible number =>
    rw [format, present?_of_visible visible]
    simp only [number]
  | choice listed => exact if_pos listed

theorem format_of_refuses {parameter : Parameter} {raw : Option String} {error : RenderError}
    (refuses : Refuses parameter.name parameter.kind raw error) :
    parameter.format raw = .error error := by
  obtain ⟨name, kind⟩ := parameter
  cases refuses with
  | absent => cases kind <;> rfl
  | blankText blank => rw [format, present?_of_blank blank]
  | blankNumber blank => rw [format, present?_of_blank blank]
  | notANumber visible unread =>
    rw [format, present?_of_visible visible]
    simp only [unread]
  | notAnOption unlisted => exact if_neg unlisted

theorem writes_or_refuses (name : String) (kind : ParameterKind) (raw : Option String) :
    (∃ text written, raw = some text ∧ Writes kind text written) ∨
      ∃ error, Refuses name kind raw error := by
  cases raw with
  | none => exact .inr ⟨_, .absent⟩
  | some text =>
    cases kind with
    | free =>
      by_cases blank : Text.allBlank text
      · exact .inr ⟨_, .blankText blank⟩
      · exact .inl ⟨text, _, rfl, .free blank⟩
    | fixed places =>
      by_cases blank : Text.allBlank text
      · exact .inr ⟨_, .blankNumber blank⟩
      · cases number : Decimal.fixed? places (Text.trimmed text) with
        | none => exact .inr ⟨_, .notANumber blank number⟩
        | some written => exact .inl ⟨text, written, rfl, .fixed blank number⟩
    | choice options =>
      by_cases listed : text ∈ options
      · exact .inl ⟨text, text, rfl, .choice listed⟩
      · exact .inr ⟨_, .notAnOption listed⟩

theorem format_eq_ok_iff {parameter : Parameter} {raw : Option String} {written : String} :
    parameter.format raw = .ok written ↔
      ∃ text, raw = some text ∧ Writes parameter.kind text written := by
  constructor
  · intro formatted
    rcases writes_or_refuses parameter.name parameter.kind raw with
      ⟨text, other, rfl, writes⟩ | ⟨error, refuses⟩
    · rw [format_of_writes writes] at formatted
      cases formatted
      exact ⟨text, rfl, writes⟩
    · rw [format_of_refuses refuses] at formatted
      cases formatted
  · rintro ⟨text, rfl, writes⟩
    exact format_of_writes writes

theorem format_eq_error_iff {parameter : Parameter} {raw : Option String} {error : RenderError} :
    parameter.format raw = .error error ↔ Refuses parameter.name parameter.kind raw error := by
  constructor
  · intro formatted
    rcases writes_or_refuses parameter.name parameter.kind raw with
      ⟨text, written, rfl, writes⟩ | ⟨other, refuses⟩
    · rw [format_of_writes writes] at formatted
      cases formatted
    · rw [format_of_refuses refuses] at formatted
      cases formatted
      exact refuses
  · exact format_of_refuses

/-- A value is written exactly if it suits the parameter. -/
theorem format_eq_ok {parameter : Parameter} {raw : Option String} :
    (∃ text, parameter.format raw = .ok text) ↔ parameter.Accepts raw := by
  obtain ⟨name, kind⟩ := parameter
  simp only [format_eq_ok_iff, Accepts]
  constructor
  · rintro ⟨written, text, rfl, writes⟩
    cases writes with
    | free visible => exact ⟨text, rfl, visible⟩
    | fixed visible number =>
      obtain ⟨value, read, -⟩ := Option.map_eq_some_iff.1 number
      exact ⟨text, rfl, visible, value, by simpa [Text.trimmed] using read⟩
    | choice listed => exact ⟨_, rfl, listed⟩
  · intro suits
    cases kind with
    | free =>
      obtain ⟨text, rfl, visible⟩ := suits
      exact ⟨_, text, rfl, .free visible⟩
    | fixed places =>
      obtain ⟨text, rfl, visible, value, read⟩ := suits
      have spelled : Decimal.Binary64.read? (Text.trimmed text).toList = some value := by
        simpa [Text.trimmed] using read
      have number : Decimal.fixed? places (Text.trimmed text) =
          some (String.ofList (value.fixed places)) := by
        rw [Decimal.fixed?, spelled, Option.map_some]
      exact ⟨_, text, rfl, .fixed visible number⟩
    | choice options =>
      obtain ⟨text, rfl, listed⟩ := suits
      exact ⟨text, text, rfl, .choice listed⟩

end Parameter

namespace Definition

variable {values other : Values} {parameters : List Parameter}

/-- All values are written exactly if each suits its parameter. -/
theorem formatAll_eq_ok :
    (∃ formatted, formatAll values parameters = .ok formatted) ↔
      ∀ parameter ∈ parameters, parameter.Accepts (values.find? parameter.name) := by
  induction parameters with
  | nil => simp [formatAll]
  | cons parameter rest ih =>
    rw [List.forall_mem_cons, ← ih, ← Parameter.format_eq_ok]
    simp only [formatAll, Outcome.bind_eq_ok, Outcome.pure_eq_ok]
    constructor
    · rintro ⟨_, text, written, others, later, -⟩
      exact ⟨⟨text, written⟩, others, later⟩
    · rintro ⟨⟨text, written⟩, others, later⟩
      exact ⟨_, text, written, others, later, rfl⟩

/-- Writing the values fails with the error of the first parameter, in column
order, that its value does not suit. -/
theorem first_of_formatAll_eq_error {error : RenderError}
    (failed : formatAll values parameters = .error error) :
    ∃ before invalid after, parameters = before ++ invalid :: after ∧
      (∀ parameter ∈ before, parameter.Accepts (values.find? parameter.name)) ∧
      invalid.format (values.find? invalid.name) = .error error := by
  induction parameters with
  | nil => cases failed
  | cons parameter rest ih =>
    rw [formatAll, Outcome.bind_eq_error] at failed
    rcases failed with here | ⟨text, written, later⟩
    · exact ⟨[], parameter, rest, rfl, by simp, here⟩
    · have failedLater : formatAll values rest = .error error := by
        rcases Outcome.bind_eq_error.1 later with later | ⟨_, _, same⟩
        · exact later
        · cases same
      obtain ⟨before, invalid, after, rfl, suited, reported⟩ := ih failedLater
      refine ⟨parameter :: before, invalid, after, rfl, ?_, reported⟩
      rw [List.forall_mem_cons]
      exact ⟨Parameter.format_eq_ok.1 ⟨text, written⟩, suited⟩

/-- What is written for a parameter is found under its name, no other parameter
having it. -/
theorem lookup_of_formatAll {formatted : List (String × String)}
    (distinct : (parameters.map Parameter.name).Nodup)
    (written : formatAll values parameters = .ok formatted) {parameter : Parameter}
    (member : parameter ∈ parameters) :
    ∃ text, parameter.format (values.find? parameter.name) = .ok text ∧
      formatted.lookup parameter.name = some text := by
  induction parameters generalizing formatted with
  | nil => cases member
  | cons head rest ih =>
    rw [formatAll] at written
    obtain ⟨text, here, written⟩ := Outcome.bind_eq_ok.1 written
    obtain ⟨others, later, same⟩ := Outcome.bind_eq_ok.1 written
    obtain rfl := Outcome.pure_eq_ok.1 same
    rw [List.map_cons, List.nodup_cons] at distinct
    rcases List.mem_cons.1 member with rfl | inRest
    · exact ⟨text, here, by simp⟩
    · have different : (parameter.name == head.name) = false := by
        rw [beq_eq_false_iff_ne]
        exact fun sameName => distinct.1 (sameName ▸ List.mem_map_of_mem inRest)
      obtain ⟨text, found, looked⟩ := ih distinct.2 later inRest
      exact ⟨text, found, by rw [List.lookup_cons, different, looked]⟩

/-- Only the values of the parameters matter. -/
theorem formatAll_congr
    (agree : ∀ parameter ∈ parameters, other.find? parameter.name = values.find? parameter.name) :
    formatAll other parameters = formatAll values parameters := by
  induction parameters with
  | nil => rfl
  | cons parameter rest ih =>
    rw [List.forall_mem_cons] at agree
    rw [formatAll, formatAll, agree.1, ih agree.2]

end Definition

/-- Segments whose placeholders all have values are filled with them. -/
theorem Template.fill_eq_ok {valueOf : String → Option String} {value : String → String}
    {segments : List Segment}
    (given : ∀ name, .placeholder name ∈ segments → valueOf name = some (value name)) :
    fill valueOf segments = .ok (String.join (segments.map (Segment.filled value))) := by
  induction segments with
  | nil => simp [fill]
  | cons segment rest ih =>
    have later := ih fun name member => given name (List.mem_cons_of_mem segment member)
    rw [List.map_cons, String.join_cons]
    cases segment with
    | literal text =>
      rw [fill, later]
      rfl
    | placeholder name =>
      rw [fill, given name List.mem_cons_self, later]
      rfl

namespace Definition

variable {definition : Definition} {values : Values}

/-- In a well-formed command every placeholder finds the text written for its
parameter, so that substitution succeeds. -/
theorem substitute_of_formatAll (wellFormed : definition.WellFormed)
    {formatted : List (String × String)}
    (written : formatAll values definition.parameters = .ok formatted) :
    ∃ value : String → String,
      (∀ parameter ∈ definition.parameters,
        parameter.format (values.find? parameter.name) = .ok (value parameter.name)) ∧
      definition.template.substitute (fun name => formatted.lookup name) =
        .ok (String.join (definition.template.segments.map (Segment.filled value))) := by
  refine ⟨fun name => (formatted.lookup name).getD "", ?_, ?_⟩
  · intro parameter member
    obtain ⟨text, format, found⟩ := lookup_of_formatAll wellFormed.distinct written member
    rw [format]
    simp [found]
  · refine Template.fill_eq_ok fun name mentioned => ?_
    have declared := (wellFormed.bound name).1 (Template.mem_mentions.2 mentioned)
    obtain ⟨parameter, member, rfl⟩ := List.mem_map.1 declared
    obtain ⟨text, -, found⟩ := lookup_of_formatAll wellFormed.distinct written member
    simp [found]

/-- Rendering a well-formed command fails only where writing its values does. -/
theorem render_eq_error (wellFormed : definition.WellFormed) {error : RenderError} :
    definition.render values = .error error ↔
      formatAll values definition.parameters = .error error := by
  rw [render]
  rw [Outcome.bind_eq_error]
  constructor
  · rintro (failed | ⟨formatted, written, failed⟩)
    · exact failed
    · obtain ⟨value, -, filled⟩ := substitute_of_formatAll wellFormed written
      rw [filled] at failed
      cases failed
  · exact .inl

/-- Rendering a well-formed command gives the template with every placeholder
replaced by the text written for its parameter. -/
theorem render_eq_ok (wellFormed : definition.WellFormed) {rendered : Rendered}
    (given : definition.render values = .ok rendered) :
    ∃ value : String → String,
      (∀ parameter ∈ definition.parameters,
        parameter.format (values.find? parameter.name) = .ok (value parameter.name)) ∧
      rendered =
        ⟨String.join (definition.template.segments.map (Segment.filled value)),
          definition.direction, definition.template.source⟩ := by
  rw [render] at given
  obtain ⟨formatted, written, filled⟩ := Outcome.bind_eq_ok.1 given
  obtain ⟨value, formats, substituted⟩ := substitute_of_formatAll wellFormed written
  rw [substituted] at filled
  cases filled
  exact ⟨value, formats, rfl⟩

/-- A well-formed command is rendered exactly if each value suits its parameter. -/
theorem exists_render_eq_ok (wellFormed : definition.WellFormed) :
    (∃ rendered, definition.render values = .ok rendered) ↔
      ∀ parameter ∈ definition.parameters, parameter.Accepts (values.find? parameter.name) := by
  rw [← formatAll_eq_ok]
  constructor
  · rintro ⟨rendered, given⟩
    obtain ⟨formatted, written, -⟩ := Outcome.bind_eq_ok.1 given
    exact ⟨formatted, written⟩
  · rintro ⟨formatted, written⟩
    cases outcome : definition.render values with
    | ok rendered => exact ⟨rendered, rfl⟩
    | error error =>
      rw [render_eq_error wellFormed, written] at outcome
      cases outcome

/-- A compiled command is rendered exactly if each value suits its parameter.  The
text rendered is the template with what the parameters write in place of their
placeholders: values without the blanks around them, numbers with their decimal places
and options as they are.  An error is that of the first parameter that its value does
not suit, and says why.  Other names in the values do not count, and substitution never
lacks a value. -/
theorem render_of_compile {row : Row} (compiled : row.compile = .ok definition)
    (values : Values) :
    ((∃ rendered, definition.render values = .ok rendered) ↔
      ∀ parameter ∈ definition.parameters, parameter.Accepts (values.find? parameter.name)) ∧
    (∀ rendered, definition.render values = .ok rendered →
      ∃ value : String → String,
        (∀ parameter ∈ definition.parameters,
          parameter.format (values.find? parameter.name) = .ok (value parameter.name) ∧
            ∃ given, values.find? parameter.name = some given ∧
              Parameter.Writes parameter.kind given (value parameter.name)) ∧
        (∀ name, .placeholder name ∈ definition.template.segments →
          name ∈ definition.parameterNames) ∧
        rendered.text = String.join (definition.template.segments.map (Segment.filled value)) ∧
        rendered.direction = definition.direction ∧
        rendered.template = definition.template.source) ∧
    (∀ error, definition.render values = .error error →
      ∃ before invalid after, definition.parameters = before ++ invalid :: after ∧
        (∀ parameter ∈ before, parameter.Accepts (values.find? parameter.name)) ∧
        invalid.format (values.find? invalid.name) = .error error ∧
        Parameter.Refuses invalid.name invalid.kind (values.find? invalid.name) error) ∧
    (∀ other : Values,
      (∀ name ∈ definition.parameterNames, other.find? name = values.find? name) →
      definition.render other = definition.render values) ∧
    ∀ formatted, formatAll values definition.parameters = .ok formatted →
      ∀ name, definition.template.substitute (fun name => formatted.lookup name) ≠
        .error name := by
  have wellFormed := Row.wellFormed_of_compile compiled
  refine ⟨?_, ?_, ?_, ?_, ?_⟩
  · exact exists_render_eq_ok wellFormed
  · intro rendered given
    obtain ⟨value, formats, rfl⟩ := render_eq_ok wellFormed given
    exact ⟨value,
      fun parameter member =>
        ⟨formats parameter member, Parameter.format_eq_ok_iff.1 (formats parameter member)⟩,
      fun name mentioned => (wellFormed.bound name).1 (Template.mem_mentions.2 mentioned),
      rfl, rfl, rfl⟩
  · intro error failed
    obtain ⟨before, invalid, after, cut, suited, refused⟩ :=
      first_of_formatAll_eq_error ((render_eq_error wellFormed).1 failed)
    exact ⟨before, invalid, after, cut, suited, refused, Parameter.format_eq_error_iff.1 refused⟩
  · intro other agree
    have same : formatAll other definition.parameters = formatAll values definition.parameters :=
      formatAll_congr fun parameter member => agree _ (List.mem_map_of_mem member)
    rw [render, render, same]
  · intro formatted written name failed
    obtain ⟨value, -, substituted⟩ := substitute_of_formatAll wellFormed written
    rw [substituted] at failed
    cases failed

/-- A row with a repeated placeholder, its parameters in another order than the
placeholders, and a value that looks like a placeholder itself.  If no value suits its
parameter, the first parameter is at fault, though its placeholder is not the first. -/
theorem render_of_compile_repeated :
    let given : Values := .ofList [("X", "ON"), ("Y", " \x7bX\x7d "), ("V", " 1e1 ")]
    let wrong : Values := .ofList [("X", "on"), ("Y", "  ")]
    ∃ definition : Definition,
      Row.compile ⟨"Sweep", "set", "A \x7bX\x7d B \x7b Y \x7d \x7bX\x7d \x7bV\x7d",
        "Y | V:V.2f | X:ON;OFF"⟩ = .ok definition ∧
      definition.render given = .ok ⟨"A ON B \x7bX\x7d ON 10.00", .set,
        "A \x7bX\x7d B \x7b Y \x7d \x7bX\x7d \x7bV\x7d"⟩ ∧
      (∀ parameter ∈ definition.parameters,
        parameter.Accepts (given.find? parameter.name)) ∧
      definition.render wrong = .error (.missingValue "Y") := by
  intro given wrong
  let definition : Definition :=
    { name := "Sweep"
      direction := .set
      template :=
        ⟨"A \x7bX\x7d B \x7b Y \x7d \x7bX\x7d \x7bV\x7d", [.literal "A ", .placeholder "X",
          .literal " B ", .placeholder "Y", .literal " ", .placeholder "X", .literal " ",
          .placeholder "V"]⟩
      parameters := [⟨"Y", .free⟩, ⟨"V", .fixed 2⟩, ⟨"X", .choice ["ON", "OFF"]⟩] }
  have compiled : Row.compile ⟨"Sweep", "set",
      "A \x7bX\x7d B \x7b Y \x7d \x7bX\x7d \x7bV\x7d", "Y | V:V.2f | X:ON;OFF"⟩ =
        .ok definition := rfl
  have rendered : definition.render given = .ok ⟨"A ON B \x7bX\x7d ON 10.00", .set,
      "A \x7bX\x7d B \x7b Y \x7d \x7bX\x7d \x7bV\x7d"⟩ := by decide +kernel
  exact ⟨definition, compiled, rendered, (render_of_compile compiled given).1.1 ⟨_, rendered⟩, rfl⟩

end Definition

end InstrumentBench
