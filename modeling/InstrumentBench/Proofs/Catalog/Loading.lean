import InstrumentBench.Proofs.Catalog.Rows
import InstrumentBench.Proofs.Command.Acceptance

/-!
# Tables for the spellings of a model

Sheets are chosen by normalized names.  Two spellings of a model therefore lead to the same
table, but for the warning that several sheets describe the model: it shows the spelling
that was asked for.  `loadTable_respelled` says that nothing else differs.
-/

namespace InstrumentBench

/-- The error as it is for another spelling of the model. -/
def DescriptorError.respelled (spelling : String) : DescriptorError → DescriptorError
  | ambiguousSheet _ chosen ignored => ambiguousSheet spelling chosen ignored
  | other => other

/-- The warning as it is for another spelling of the model. -/
def LoadWarning.respelled (spelling : String) (warning : LoadWarning) : LoadWarning :=
  { warning with error := warning.error.respelled spelling }

/-- The table as it is for another spelling of the model. -/
def Table.respelled (spelling : String) (table : Table) : Table :=
  { table with warnings := table.warnings.map (LoadWarning.respelled spelling) }

/-- An error has nothing to do with the choice of a sheet. -/
def DescriptorError.OfRow (error : DescriptorError) : Prop :=
  error.code ≠ "AmbiguousSheetMatch"

instance (error : DescriptorError) : Decidable error.OfRow :=
  inferInstanceAs (Decidable (error.code ≠ "AmbiguousSheetMatch"))

theorem DescriptorError.OfRow.respelled {error : DescriptorError} (ofRow : error.OfRow)
    (spelling : String) : error.respelled spelling = error := by
  cases error with
  | ambiguousSheet => exact absurd rfl ofRow
  | _ => rfl

theorem Row.ofRow_of_reports {row : Row} {condition : Row.Condition} {error : DescriptorError}
    (reported : row.Reports condition error) : error.OfRow := by
  cases condition with
  | named =>
    cases reported
    decide
  | templated =>
    cases reported
    decide
  | directed =>
    cases reported
    exact (by decide : "InvalidDirection" ≠ "AmbiguousSheetMatch")
  | scanned =>
    obtain ⟨flaw, -, rfl⟩ := reported
    exact (by decide : "MalformedTemplate" ≠ "AmbiguousSheetMatch")
  | listed =>
    obtain ⟨-, code⟩ := reported
    rw [DescriptorError.OfRow]
    rcases code with code | code
    · rw [code]
      decide
    · rw [code]
      decide
  | bound =>
    obtain ⟨_, _, _, _, -, -, rfl, -⟩ := reported
    exact (by decide : "PlaceholderParameterMismatch" ≠ "AmbiguousSheetMatch")

theorem Row.ofRow_of_compile_eq_error {row : Row} {error : DescriptorError}
    (failed : row.compile = .error error) : error.OfRow := by
  obtain ⟨_, _, _, -, -, -, reported⟩ := Row.violation_of_compile_eq_error failed
  exact Row.ofRow_of_reports reported

namespace Table

theorem ofRow_of_mem_compileRows {sheet : String} {columns : Columns} {number : Nat}
    {rows : List (List String)} {warning : LoadWarning}
    (member : warning ∈ (compileRows sheet columns number rows).2) : warning.error.OfRow := by
  induction rows generalizing number with
  | nil => cases member
  | cons cells rest ih =>
    rcases row_cases columns cells with blank | ⟨some, ⟨command, compiled⟩ | ⟨error, failed⟩⟩
    · rw [compileRows_of_blank blank] at member
      exact ih member
    · rw [compileRows_of_ok some compiled] at member
      exact ih member
    · rw [compileRows_of_error some failed] at member
      rcases List.mem_cons.1 member with rfl | member
      · exact Row.ofRow_of_compile_eq_error failed
      · exact ih member

/-- The warnings about rows do not depend on how the model is spelled. -/
theorem respelled_compileRows (spelling sheet : String) (columns : Columns) (number : Nat)
    (rows : List (List String)) :
    (compileRows sheet columns number rows).2.map (LoadWarning.respelled spelling) =
      (compileRows sheet columns number rows).2 := by
  have same : ∀ warning ∈ (compileRows sheet columns number rows).2,
      warning.respelled spelling = warning := by
    intro warning member
    rw [LoadWarning.respelled, (ofRow_of_mem_compileRows member).respelled]
  rw [List.map_congr_left same, List.map_id']

theorem ofSheet_respelled (spelling : String) (sheet : Sheet) (warnings : List LoadWarning) :
    ofSheet sheet (warnings.map (LoadWarning.respelled spelling)) =
      (ofSheet sheet warnings).map (respelled spelling) := by
  cases resolved : Columns.resolve sheet.headers with
  | error error =>
    rw [ofSheet, ofSheet, resolved]
    rfl
  | ok columns =>
    rw [ofSheet_of_resolve resolved, ofSheet_of_resolve resolved, Except.map, respelled,
      List.map_append, respelled_compileRows]

end Table

variable {model other : String}

/-- Sheets are matched by the normalized name of the model. -/
theorem matchSheet?_congr (same : normalizeModel model = normalizeModel other)
    (names : List String) : matchSheet? names model = matchSheet? names other := by
  rw [matchSheet?, matchSheet?, same]

/-- Another spelling of a model leads to the same table, but for the spelling in the
warning that several sheets match. -/
theorem loadTable_respelled (same : normalizeModel model = normalizeModel other)
    (source : SheetSource) :
    loadTable source other =
      (loadTable source model).map (·.map (Table.respelled (Text.trimmed other))) := by
  rw [loadTable, loadTable, matchSheet?_congr same]
  cases matchSheet? source.names other with
  | none => rfl
  | some chosen =>
    obtain ⟨chosen, ignored⟩ := chosen
    dsimp only
    cases source.sheet chosen with
    | error error => rfl
    | ok sheet =>
      have warned : (if ignored = [] then []
          else [⟨chosen, none, .ambiguousSheet (Text.trimmed other) chosen ignored⟩]) =
            (if ignored = [] then []
              else [⟨chosen, none, .ambiguousSheet (Text.trimmed model) chosen ignored⟩]).map
              (LoadWarning.respelled (Text.trimmed other)) := by
        split <;> rfl
      dsimp only
      rw [warned, Table.ofSheet_respelled]
      cases Table.ofSheet sheet _ <;> rfl

end InstrumentBench
