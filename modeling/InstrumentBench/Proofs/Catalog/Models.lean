import InstrumentBench.Proofs.Catalog.Loading

/-!
# The models of a workbook

A model is described by the first sheet whose name is the same but for case and blanks around
it.  Listing the models, choosing a sheet and loading a table each look for that sheet in a way of
their own: `filter_distinctFrom` is what they have in common, and `loads_first` says which sheet
is compiled.
-/

namespace InstrumentBench

theorem normalizeModel_eq_empty {name : String} : normalizeModel name = "" ↔ Text.allBlank name := by
  rw [normalizeModel, Text.lowercased_eq_empty, Text.trimmed_eq_empty]

/-! ## One name for each model -/

section Names

variable {names seen : List String} {key name model : String}

theorem distinctFrom_sublist (seen names : List String) :
    (distinctFrom seen names).Sublist names := by
  induction names generalizing seen with
  | nil => exact .slnil
  | cons name rest ih =>
    rw [distinctFrom]
    split
    · exact (ih seen).cons name
    · exact (ih _).cons_cons name

/-- Of the names of a model the first one is listed, unless the model has been met before. -/
theorem filter_distinctFrom (seen names : List String) (key : String) :
    (distinctFrom seen names).filter (normalizeModel · = key) =
      if key = "" ∨ key ∈ seen then []
      else (names.filter (normalizeModel · = key)).take 1 := by
  induction names generalizing seen with
  | nil => simp [distinctFrom]
  | cons name rest ih =>
    rw [distinctFrom]
    by_cases same : normalizeModel name = key
    -- the first name with the key is listed, and has been met by all names after it
    · by_cases met : normalizeModel name = "" ∨ normalizeModel name ∈ seen
      · rw [if_pos met, ih, ← same, if_pos met, if_pos met]
      · have later : normalizeModel name = "" ∨ normalizeModel name ∈ normalizeModel name :: seen :=
          .inr List.mem_cons_self
        rw [if_neg met, List.filter_cons_of_pos (by simpa using same), ih, ← same, if_pos later,
          if_neg met, List.filter_cons_of_pos (by simp)]
        rfl
    · rw [List.filter_cons_of_neg (p := (normalizeModel · = key)) (l := rest) (by simpa using same)]
      split
      next => exact ih seen
      next =>
        have unmet : key ∈ normalizeModel name :: seen ↔ key ∈ seen := by simp [Ne.symm same]
        rw [List.filter_cons_of_neg (by simpa using same), ih]
        simp only [unmet]

theorem filter_distinctModels (names : List String) (key : String) :
    (distinctModels names).filter (normalizeModel · = key) =
      if key = "" then [] else (names.filter (normalizeModel · = key)).take 1 := by
  rw [distinctModels, filter_distinctFrom]
  simp only [List.not_mem_nil, or_false]

theorem not_allBlank_of_mem_distinctModels (listed : name ∈ distinctModels names) :
    ¬Text.allBlank name := by
  intro blank
  have member : name ∈ (distinctModels names).filter (normalizeModel · = normalizeModel name) :=
    List.mem_filter.2 ⟨listed, decide_eq_true rfl⟩
  rw [filter_distinctModels, if_pos (normalizeModel_eq_empty.2 blank)] at member
  cases member

/-- No two of the listed names are names of one model. -/
theorem nodup_distinctModels (names : List String) :
    ((distinctModels names).map normalizeModel).Nodup := by
  rw [List.nodup_iff_count_le_one]
  intro key
  have count : ((distinctModels names).map normalizeModel).count key =
      ((distinctModels names).filter (normalizeModel · = key)).length := by
    rw [List.count, List.countP_map, List.countP_eq_length_filter]
    refine congrArg List.length (List.filter_congr fun name _ => ?_)
    rw [Function.comp_apply, Bool.eq_iff_iff, beq_iff_eq, decide_eq_true_eq]
  rw [count, filter_distinctModels]
  split
  · exact Nat.zero_le 1
  · exact List.length_take_le 1 _

/-! ## The sheet for a model -/

theorem matchSheet?_eq_some {chosen : String} {ignored : List String} :
    matchSheet? names model = some (chosen, ignored) ↔
      normalizeModel model ≠ "" ∧
        names.filter (normalizeModel · = normalizeModel model) = chosen :: ignored := by
  rw [matchSheet?]
  by_cases blank : normalizeModel model = ""
  · simp [blank]
  · rw [if_neg blank]
    cases names.filter (normalizeModel · = normalizeModel model) with
    | nil => simp
    | cons first others => simp [blank]

theorem matchSheet?_eq_none :
    matchSheet? names model = none ↔
      ∀ name ∈ distinctModels names, normalizeModel name ≠ normalizeModel model := by
  have listed := filter_distinctModels names (normalizeModel model)
  have absent : (∀ name ∈ distinctModels names, normalizeModel name ≠ normalizeModel model) ↔
      (distinctModels names).filter (normalizeModel · = normalizeModel model) = [] := by
    simp [List.filter_eq_nil_iff]
  rw [absent, listed, matchSheet?]
  by_cases blank : normalizeModel model = ""
  · simp [blank]
  · rw [if_neg blank, if_neg blank]
    cases names.filter (normalizeModel · = normalizeModel model) with
    | nil => simp
    | cons first others => simp

/-- The name of the sheet for a model is the first name that is the same after normalization. -/
theorem matchSheet?_eq_some_iff {chosen : String} {ignored : List String} :
    matchSheet? names model = some (chosen, ignored) ↔
      chosen ∈ distinctModels names ∧ normalizeModel chosen = normalizeModel model ∧
      ∃ before after, names = before ++ chosen :: after ∧
        (∀ name ∈ before, normalizeModel name ≠ normalizeModel model) ∧
        ignored = after.filter (normalizeModel · = normalizeModel model) := by
  have listed := filter_distinctModels names (normalizeModel model)
  rw [matchSheet?_eq_some]
  constructor
  · rintro ⟨visible, found⟩
    rw [if_neg visible, found] at listed
    have member : chosen ∈ (distinctModels names).filter
        (normalizeModel · = normalizeModel model) := by simp [listed]
    obtain ⟨member, same⟩ := List.mem_filter.1 member
    obtain ⟨before, after, whole, apart, -, rest⟩ := List.filter_eq_cons_iff.1 found
    exact ⟨member, of_decide_eq_true same, before, after, whole,
      fun name earlier => by simpa using apart name earlier, rest.symm⟩
  · rintro ⟨member, same, before, after, whole, apart, rfl⟩
    refine ⟨?_, List.filter_eq_cons_iff.2 ⟨before, after, whole, ?_, decide_eq_true same, rfl⟩⟩
    · rw [← same, Ne, normalizeModel_eq_empty]
      exact not_allBlank_of_mem_distinctModels member
    · intro name earlier
      simpa using apart name earlier

end Names

/-! ## The table for a model -/

/-- The first sheet of a workbook for a model, and the sheets after it. -/
structure Workbook.FirstSheet (workbook : Workbook) (model : String) (sheet : Sheet)
    (after : List Sheet) : Prop where
  whole : ∃ before, workbook.sheets = before ++ sheet :: after ∧
    ∀ earlier ∈ before, normalizeModel earlier.name ≠ normalizeModel model
  named : normalizeModel sheet.name = normalizeModel model
  listed : sheet.name ∈ distinctModels workbook.names

/-- The warning that more sheets than the one in use describe the model. -/
def clashWarning (model : String) (sheet : Sheet) (after : List Sheet) : LoadWarning :=
  ⟨sheet.name, none, .ambiguousSheet (Text.trimmed model) sheet.name
    ((after.map Sheet.name).filter (normalizeModel · = normalizeModel model))⟩

/-- The table of a model is compiled from a sheet with other sheets after it.  Before the warnings
about its rows stands the one of a clash, if there is a clash. -/
structure Table.CompiledFrom (table : Table) (columns : Columns) (model : String) (sheet : Sheet)
    (after : List Sheet) : Prop where
  named : table.model = sheet.name
  commands : table.commands = (compileRows sheet.name columns 2 sheet.rows).1
  clashing : (∃ later ∈ after, normalizeModel later.name = normalizeModel model) →
    table.warnings = clashWarning model sheet after ::
      (compileRows sheet.name columns 2 sheet.rows).2
  alone : (∀ later ∈ after, normalizeModel later.name ≠ normalizeModel model) →
    table.warnings = (compileRows sheet.name columns 2 sheet.rows).2
  others : ∀ warning ∈ (compileRows sheet.name columns 2 sheet.rows).2,
    warning.error.code ≠ "AmbiguousSheetMatch"

/-- The table of a model is none if the model is not listed, and else that of its first sheet,
unless the headers of the sheet do not resolve. -/
inductive Workbook.LoadsFirst (workbook : Workbook) (model : String) : Prop where
  | unlisted (absent : ∀ name ∈ distinctModels workbook.names,
        normalizeModel name ≠ normalizeModel model)
      (none : loadTable workbook.source model = .ok none)
  | compiled {sheet : Sheet} {after : List Sheet} (first : workbook.FirstSheet model sheet after)
      (fails : ∀ error, loadTable workbook.source model = .error error ↔
        Columns.resolve sheet.headers = .error error)
      (compiles : ∀ columns, Columns.resolve sheet.headers = .ok columns →
        ∃ table, loadTable workbook.source model = .ok (some table) ∧
          table.CompiledFrom columns model sheet after)

section Tables

variable {workbook : Workbook} {model : String} {sheet : Sheet} {after : List Sheet}

/-- The first sheet for a model is the first one of its own name. -/
theorem Workbook.FirstSheet.sheet_eq (first : workbook.FirstSheet model sheet after) :
    workbook.sheet sheet.name = .ok sheet := by
  obtain ⟨before, whole, apart⟩ := first.whole
  have found : workbook.sheets.find? (·.name = sheet.name) = some sheet := by
    rw [whole]
    refine List.find?_eq_some_iff_append.2 ⟨decide_eq_true rfl, before, after, rfl, ?_⟩
    intro earlier member
    have different : earlier.name ≠ sheet.name := fun same =>
      apart earlier member (same ▸ first.named)
    simpa using different
  rw [Workbook.sheet, found]

theorem Workbook.FirstSheet.matched (first : workbook.FirstSheet model sheet after) :
    matchSheet? workbook.names model = some (sheet.name,
      (after.map Sheet.name).filter (normalizeModel · = normalizeModel model)) := by
  obtain ⟨before, whole, apart⟩ := first.whole
  refine matchSheet?_eq_some_iff.2 ⟨first.listed, first.named, before.map Sheet.name,
    after.map Sheet.name, ?_, List.forall_mem_map.2 apart, rfl⟩
  rw [Workbook.names, whole, List.map_append, List.map_cons]

/-- The warnings before those about rows. -/
def clashWarnings (model : String) (sheet : Sheet) (after : List Sheet) : List LoadWarning :=
  if (after.map Sheet.name).filter (normalizeModel · = normalizeModel model) = [] then []
  else [clashWarning model sheet after]

theorem ignored_eq_nil :
    (after.map Sheet.name).filter (normalizeModel · = normalizeModel model) = [] ↔
      ∀ later ∈ after, normalizeModel later.name ≠ normalizeModel model := by
  simp [List.filter_eq_nil_iff]

theorem Workbook.FirstSheet.loaded (first : workbook.FirstSheet model sheet after) :
    loadTable workbook.source model =
      (Table.ofSheet sheet (clashWarnings model sheet after)).map some := by
  have names : workbook.source.names = workbook.names := rfl
  have read : workbook.source.sheet sheet.name = .ok sheet := first.sheet_eq
  rw [loadTable, names, first.matched]
  dsimp only
  rw [read]
  rfl

theorem Table.compiledFrom {columns : Columns}
    (resolved : Columns.resolve sheet.headers = .ok columns) :
    ∃ table, Table.ofSheet sheet (clashWarnings model sheet after) = .ok table ∧
      table.CompiledFrom columns model sheet after := by
  refine ⟨_, ofSheet_of_resolve resolved _, rfl, rfl, ?clashing, ?alone, ?others⟩
  case clashing =>
    rintro ⟨later, member, same⟩
    have some : clashWarnings model sheet after = [clashWarning model sheet after] :=
      if_neg fun none => ignored_eq_nil.1 none later member same
    rw [some]
    rfl
  case alone =>
    intro unique
    have none : clashWarnings model sheet after = [] := if_pos (ignored_eq_nil.2 unique)
    rw [none]
    rfl
  case others => exact fun warning => ofRow_of_mem_compileRows

theorem Workbook.FirstSheet.loadsFirst (first : workbook.FirstSheet model sheet after) :
    workbook.LoadsFirst model := by
  refine .compiled first (fun error => ?fails) (fun columns resolved => ?compiles)
  case fails =>
    rw [first.loaded, Outcome.map_eq_error, Table.ofSheet, Outcome.bind_eq_error]
    refine or_iff_left ?_
    rintro ⟨columns, -, compiled⟩
    cases compiled
  case compiles =>
    obtain ⟨table, compiled, compiledFrom⟩ := Table.compiledFrom resolved
    refine ⟨table, ?_, compiledFrom⟩
    rw [first.loaded, compiled]
    rfl

end Tables

/-- The table for a model is that of the first sheet for it. -/
theorem loads_first (workbook : Workbook) (model : String) : workbook.LoadsFirst model := by
  cases matched : matchSheet? workbook.names model with
  | none =>
    have names : workbook.source.names = workbook.names := rfl
    refine .unlisted (matchSheet?_eq_none.1 matched) ?_
    rw [loadTable, names, matched]
  | some found =>
    obtain ⟨chosen, ignored⟩ := found
    obtain ⟨listed, same, before, after, whole, apart, -⟩ := matchSheet?_eq_some_iff.1 matched
    obtain ⟨start, rest, sheets, rfl, tail⟩ := List.map_eq_append_iff.1 whole
    obtain ⟨sheet, finish, rfl, rfl, rfl⟩ := List.map_eq_cons_iff.1 tail
    have first : workbook.FirstSheet model sheet finish := by
      refine ⟨⟨start, sheets, fun earlier member => ?_⟩, same, listed⟩
      exact apart earlier.name (List.mem_map_of_mem member)
    exact first.loadsFirst

/-- A listed model has a sheet. -/
theorem loadTable_ne_none {workbook : Workbook} {name : String}
    (listed : name ∈ distinctModels workbook.names) :
    loadTable workbook.source name ≠ .ok none := by
  cases loads_first workbook name with
  | unlisted absent => exact absurd rfl (absent name listed)
  | @compiled sheet _ _ fails compiles =>
    cases resolved : Columns.resolve sheet.headers with
    | error error =>
      rw [(fails error).2 resolved]
      intro none
      cases none
    | ok columns =>
      obtain ⟨table, loaded, -⟩ := compiles columns resolved
      rw [loaded]
      intro none
      cases none

end InstrumentBench
