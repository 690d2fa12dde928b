import InstrumentBench.Proofs.Catalog.Models
import InstrumentBench.Proofs.CommandLine.Agreement

/-!
# Listing the models

Asked for the models of a workbook, the program tells of each that is listed how large its table
is, or why it has none, in the order of the sheets.  No model is left out, since a listed model
has a sheet, and each is told of by name (`ModelSummary.names`).

`models_first_sheet` puts this together with what is listed, which sheet is chosen for a model
and which one is compiled.
-/

namespace InstrumentBench

namespace CommandLine

open Program

variable {workbook : Workbook}

/-- The model that a summary is about. -/
def ModelSummary.model : ModelSummary → String
  | usable model _ _ => model
  | unusable model _ => model

/-- A summary names a model: its line begins with the name, two blanks and a parenthesis, and as
JSON it has the name as a member. -/
structure ModelSummary.Names (summary : ModelSummary) (model : String) : Prop where
  line : ∃ rest, summary.line = model ++ "  (" ++ rest
  member : ∃ members, summary.encode = .object members ∧
    members.lookup "model" = some (.string model)

theorem ModelSummary.names (summary : ModelSummary) : summary.Names summary.model := by
  cases summary with
  | usable model commands warnings =>
    refine ⟨⟨toString commands ++ " commands, " ++ toString warnings ++ " warnings)", ?_⟩, _, rfl,
      rfl⟩
    simp only [line, String.append_assoc, ModelSummary.model]
  | unusable model reason =>
    refine ⟨⟨"unusable: " ++ reason ++ ")", ?_⟩, _, rfl, rfl⟩
    have opens : "  (unusable: " = "  (" ++ "unusable: " := rfl
    simp only [line, opens, String.append_assoc, ModelSummary.model]

/-- A listed model has a summary. -/
theorem ModelSummary.exists_of_listed {name : String}
    (listed : name ∈ distinctModels workbook.names) :
    ∃ summary, of? workbook name = some summary ∧ summary.model = name := by
  have loaded := loadTable_ne_none listed
  rw [of?]
  cases answered : loadTable workbook.source name with
  | error error => exact ⟨_, rfl, rfl⟩
  | ok answer =>
    cases answer with
    | none => exact absurd answered loaded
    | some table => exact ⟨_, rfl, rfl⟩

/-- The summaries of models that all have one. -/
theorem ModelSummary.forall₂_filterMap {names : List String}
    (summarized : ∀ name ∈ names, ∃ summary, of? workbook name = some summary ∧
      summary.model = name) :
    List.Forall₂ (fun name summary => of? workbook name = some summary ∧ summary.model = name)
      names (names.filterMap (of? workbook)) := by
  induction names with
  | nil => exact .nil
  | cons name rest ih =>
    obtain ⟨⟨summary, found, about⟩, later⟩ := List.forall_mem_cons.1 summarized
    rw [List.filterMap_cons, found]
    exact .cons ⟨found, about⟩ (ih later)

/-- The summaries of the listed models that have one, in order. -/
def summaries (workbook : Workbook) : List ModelSummary :=
  (distinctModels workbook.names).filterMap (ModelSummary.of? workbook)

theorem result_perform_models {context : Context} {world after : World}
    (loads : context.loadWorkbook.result ⟨"", ""⟩ world = ((.ok workbook, ⟨"", ""⟩), after)) :
    (Task.models.perform context).result ⟨"", ""⟩ world = ((.ok (),
      ⟨shown context.json (.array ((summaries workbook).map ModelSummary.encode))
        (lines ((summaries workbook).map ModelSummary.line)), ""⟩), after) := by
  rw [Task.perform, listModels, result_bind, loads]
  dsimp only
  rw [result_show, String.empty_append]
  rfl

/-- However the program is asked for the models of the workbook, it shows a summary of each that
is listed, in order, and nothing else.  Each names its model, and as text they are lines. -/
def ShowsModels (workbook : Workbook) : Prop :=
  ∀ (environment : Environment) (arguments : List String) (invocation : Invocation)
    (context : Context) (world between after : World),
    Invocation.read arguments = .ok invocation → invocation.task = .models →
    (invocation.context environment).run world = (context, between) →
    context.loadWorkbook.result ⟨"", ""⟩ between = ((.ok workbook, ⟨"", ""⟩), after) →
    ∃ summaries, List.Forall₂
        (fun name summary => ModelSummary.of? workbook name = some summary ∧
          summary.model = name ∧ summary.Names name)
        (distinctModels workbook.names) summaries ∧
      ((run environment arguments).run world).1 = .success
        ⟨shown context.json (.array (summaries.map ModelSummary.encode))
          ("\n".intercalate (summaries.map ModelSummary.line)), ""⟩

theorem showsModels (workbook : Workbook) : ShowsModels workbook := by
  intro environment arguments invocation context world between after read models begun loads
  have told := ModelSummary.forall₂_filterMap
    fun name => @ModelSummary.exists_of_listed workbook name
  refine ⟨summaries workbook, told.imp fun _ summary ⟨found, about⟩ =>
    ⟨found, about, about ▸ summary.names⟩, ?_⟩
  have listed := result_perform_models loads
  rw [← models] at listed
  exact run_of_ok read begun listed

end CommandLine

/-- The listed models are names of sheets in their order, none of them blank and no two of them
the same after normalization.  For a model the one that is the same is chosen, with the later
names that are the same set aside, and no name if none is the same.  The table of a model is that
of the first sheet for it.  So every listed model has a sheet, and the program shows them all. -/
theorem models_first_sheet (names : List String) (workbook : Workbook) (model : String) :
    ((distinctModels names).Sublist names ∧
      (∀ name ∈ distinctModels names, ¬Text.allBlank name) ∧
      ((distinctModels names).map normalizeModel).Nodup) ∧
    (matchSheet? names model = none ↔
      ∀ name ∈ distinctModels names, normalizeModel name ≠ normalizeModel model) ∧
    (∀ chosen ignored, matchSheet? names model = some (chosen, ignored) ↔
      chosen ∈ distinctModels names ∧ normalizeModel chosen = normalizeModel model ∧
      ∃ before after, names = before ++ chosen :: after ∧
        (∀ name ∈ before, normalizeModel name ≠ normalizeModel model) ∧
        ignored = after.filter (normalizeModel · = normalizeModel model)) ∧
    workbook.LoadsFirst model ∧
    (∀ name ∈ distinctModels workbook.names, loadTable workbook.source name ≠ .ok none) ∧
    CommandLine.ShowsModels workbook := by
  refine ⟨⟨?sublist, ?visible, ?distinct⟩, ?absent, ?chosen, ?first, ?listed, ?shown⟩
  case sublist => exact distinctFrom_sublist [] names
  case visible => exact fun name => not_allBlank_of_mem_distinctModels
  case distinct => exact nodup_distinctModels names
  case absent => exact matchSheet?_eq_none
  case chosen => exact fun chosen ignored => matchSheet?_eq_some_iff
  case first => exact loads_first workbook model
  case listed => exact fun name => loadTable_ne_none
  case shown => exact CommandLine.showsModels workbook

/-- A workbook with three sheets for one model, two of them of the same name. -/
def crowdedBook : Workbook :=
  ⟨[⟨"PSU", [], []⟩, ⟨"psu ", [], []⟩, ⟨"PSU", [], []⟩]⟩

/-- A disk with the workbook in a file. -/
def crowdedWorld : World :=
  ⟨⟨[], [(["bench.json"], .file crowdedBook.encode.compact.toUTF8)]⟩, fun _ => 0, 0⟩

open CommandLine in
/-- The first of the sheets is listed, and the program shows its model, as a line or as JSON. -/
theorem models_first_sheet_crowded :
    distinctModels crowdedBook.names = ["PSU"] ∧
      matchSheet? crowdedBook.names "psu" = some ("PSU", ["psu ", "PSU"]) ∧
      crowdedBook.LoadsFirst "psu" ∧ loadTable crowdedBook.source "PSU" ≠ .ok none ∧
      (∃ summaries, List.Forall₂ (fun name summary =>
          ModelSummary.of? crowdedBook name = some summary ∧
            summary.model = name ∧ summary.Names name)
          (distinctModels crowdedBook.names) summaries ∧
        ((run bareEnvironment ["models", "--workbook", "bench.json"]).run crowdedWorld).1 =
          .success ⟨shown false (.array (summaries.map ModelSummary.encode))
            ("\n".intercalate (summaries.map ModelSummary.line)), ""⟩) ∧
      ((run bareEnvironment ["models", "--workbook", "bench.json"]).run crowdedWorld).1 =
        .success ⟨"PSU  (unusable: missing required column 'Name')\n", ""⟩ ∧
      ((run bareEnvironment ["models", "--workbook", "bench.json", "--json"]).run crowdedWorld).1 =
        .success ⟨"[\n  \x7b\n    \"error\": \"missing required column 'Name'\",\n" ++
          "    \"model\": \"PSU\"\n  \x7d\n]\n", ""⟩ := by
  have listed : distinctModels crowdedBook.names = ["PSU"] := by decide
  have chosen : matchSheet? crowdedBook.names "psu" = some ("PSU", ["psu ", "PSU"]) := by decide
  obtain ⟨-, -, -, first, loaded, shows⟩ :=
    models_first_sheet crowdedBook.names crowdedBook "psu"
  let invocation : Invocation := ⟨some "bench.json", none, false, .models⟩
  have read : Invocation.read ["models", "--workbook", "bench.json"] = .ok invocation := by
    decide +kernel
  let begun := (invocation.context bareEnvironment).run crowdedWorld
  have loads : (begun.1.loadWorkbook.result ⟨"", ""⟩ begun.2).1 =
      (.ok crowdedBook, ⟨"", ""⟩) := by decide +kernel
  have plain : begun.1.json = false := by decide +kernel
  refine ⟨listed, chosen, first, loaded "PSU" (by rw [listed]; decide), ?_, by decide +kernel,
    by decide +kernel⟩
  rw [← plain]
  exact shows bareEnvironment _ invocation begun.1 crowdedWorld begun.2 _ read rfl rfl
    (Prod.ext loads rfl)

end InstrumentBench
