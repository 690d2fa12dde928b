import InstrumentBench.Catalog.Cache
import InstrumentBench.Proofs.Catalog.Loading
import Mathlib.Data.Finset.Card
import Mathlib.Data.List.DropRight

/-!
# Runs of a table cache

A run asks a cache for tables, makes it forget them, and replaces the workbook behind it.
What a request is answered with is said by the log of the run alone: a table that was
handed out for the same model since the tables were last forgotten is handed out again, as
the same object, and otherwise the present workbook decides.

`Consistent` is the invariant that connects a cache with the log.  `Consistent.step` says
that every operation keeps it, and `load_after` says what it means for a request after any
run.
-/

namespace InstrumentBench

/-- One thing asked of a cache, or done to the workbook behind it. -/
inductive CacheOperation where
  | get (model : String)
  | invalidate
  | replace (source : SheetSource)

/-- One thing that happened in a run. -/
inductive CacheEvent where
  | got (model : String) (outcome : Except DescriptorError (Option SharedTable))
  | invalidated
  | replaced
  deriving DecidableEq

/-- What happened in a run, the latest event last. -/
abbrev CacheLog := List CacheEvent

/-! ## Logs -/

namespace CacheEvent

/-- The model asked for, as it was spelled. -/
def model? : CacheEvent → Option String
  | got model _ => some model
  | _ => none

/-- The normalized name of the model whose table was handed out. -/
def loaded? : CacheEvent → Option String
  | got model (.ok (some _)) => some (normalizeModel model)
  | _ => none

end CacheEvent

namespace CacheLog

/-- What happened since the tables were last forgotten. -/
def recent (log : CacheLog) : List CacheEvent :=
  log.rtakeWhile (· ≠ .invalidated)

/-- A table was handed out for a model since the tables were last forgotten. -/
def Returned (log : CacheLog) (key : String) (shared : SharedTable) : Prop :=
  ∃ model, normalizeModel model = key ∧ .got model (.ok (some shared)) ∈ log.recent

/-- A table was ever handed out. -/
def Given (log : CacheLog) (shared : SharedTable) : Prop :=
  ∃ model, .got model (.ok (some shared)) ∈ log

/-- The normalized models whose tables were handed out since the tables were last
forgotten. -/
def loadedModels (log : CacheLog) : List String :=
  log.recent.filterMap CacheEvent.loaded?

/-- How a model was spelled when it was asked for first since the tables were last
forgotten. -/
def first? (log : CacheLog) (key : String) : Option String :=
  (log.recent.filterMap CacheEvent.model?).find? (normalizeModel · = key)

/-- How a model is spelled in its table: as it was when it was asked for first. -/
def firstSpelling (log : CacheLog) (model : String) : String :=
  (log.first? (normalizeModel model)).getD model

variable {log : CacheLog} {model other key : String} {shared : SharedTable}
  {outcome : Except DescriptorError (Option SharedTable)}

@[simp] theorem recent_concat_got :
    recent (log ++ [.got model outcome]) = log.recent ++ [.got model outcome] := by
  simp [recent]

@[simp] theorem recent_concat_invalidated : recent (log ++ [.invalidated]) = [] := by
  simp [recent]

@[simp] theorem recent_concat_replaced :
    recent (log ++ [.replaced]) = log.recent ++ [.replaced] := by
  simp [recent]

theorem returned_concat_got :
    Returned (log ++ [.got model outcome]) key shared ↔
      log.Returned key shared ∨ normalizeModel model = key ∧ outcome = .ok (some shared) := by
  simp only [Returned, recent_concat_got, List.mem_append, List.mem_singleton,
    CacheEvent.got.injEq, and_or_left, exists_or]
  refine or_congr_right ?_
  constructor
  · rintro ⟨_, named, rfl, rfl⟩
    exact ⟨named, rfl⟩
  · rintro ⟨named, rfl⟩
    exact ⟨model, named, rfl, rfl⟩

@[simp] theorem returned_concat_invalidated :
    ¬Returned (log ++ [.invalidated]) key shared := by
  simp [Returned]

@[simp] theorem returned_concat_replaced :
    Returned (log ++ [.replaced]) key shared ↔ log.Returned key shared := by
  simp [Returned]

theorem given_concat_got :
    Given (log ++ [.got model outcome]) shared ↔
      log.Given shared ∨ outcome = .ok (some shared) := by
  simp [Given, exists_or, @eq_comm _ _ outcome]

@[simp] theorem given_concat_invalidated :
    Given (log ++ [.invalidated]) shared ↔ log.Given shared := by
  simp [Given]

@[simp] theorem given_concat_replaced : Given (log ++ [.replaced]) shared ↔ log.Given shared := by
  simp [Given]

theorem Returned.given (returned : log.Returned key shared) : log.Given shared := by
  obtain ⟨model, -, member⟩ := returned
  exact ⟨model, (List.rtakeWhile_suffix _ _).mem member⟩

theorem mem_loadedModels : key ∈ log.loadedModels ↔ ∃ shared, log.Returned key shared := by
  rw [loadedModels, List.mem_filterMap]
  constructor
  · rintro ⟨event, member, loaded⟩
    rw [CacheEvent.loaded?.eq_def] at loaded
    split at loaded
    next model shared => exact ⟨shared, model, Option.some.inj loaded, member⟩
    next => cases loaded
  · rintro ⟨shared, model, rfl, member⟩
    exact ⟨_, member, rfl⟩

theorem first?_concat_got :
    first? (log ++ [.got model outcome]) key =
      (log.first? key).or (if normalizeModel model = key then some model else none) := by
  rw [first?, first?, recent_concat_got, List.filterMap_append, List.find?_append]
  by_cases same : normalizeModel model = key <;> simp [CacheEvent.model?, same]

theorem first?_isSome_of_mem (member : .got model outcome ∈ log.recent) :
    (log.first? (normalizeModel model)).isSome := by
  rw [first?, List.find?_isSome]
  exact ⟨model, List.mem_filterMap.2 ⟨_, member, rfl⟩, by simp⟩

/-- The first spelling of a model stays the first. -/
theorem firstSpelling_concat_of_mem {earlier : Except DescriptorError (Option SharedTable)}
    (member : .got other earlier ∈ log.recent) :
    firstSpelling (log ++ [.got model outcome]) other = log.firstSpelling other := by
  obtain ⟨spelling, first⟩ := Option.isSome_iff_exists.1 (first?_isSome_of_mem member)
  simp [firstSpelling, first?_concat_got, first]

theorem firstSpelling_concat_self :
    firstSpelling (log ++ [.got model outcome]) model = log.firstSpelling model := by
  rw [firstSpelling, firstSpelling, first?_concat_got, if_pos rfl]
  cases log.first? (normalizeModel model) <;> rfl

theorem exists_got_of_first? {spelling : String} (first : log.first? key = some spelling) :
    normalizeModel spelling = key ∧ ∃ outcome, .got spelling outcome ∈ log.recent := by
  have named : normalizeModel spelling = key := by simpa using List.find?_some first
  obtain ⟨event, member, requested⟩ := List.mem_filterMap.1 (List.mem_of_find?_eq_some first)
  cases event with
  | got model outcome =>
    cases requested
    exact ⟨named, outcome, member⟩
  | invalidated => cases requested
  | replaced => cases requested

theorem normalizeModel_firstSpelling (model : String) :
    normalizeModel (log.firstSpelling model) = normalizeModel model := by
  rw [firstSpelling]
  cases first : log.first? (normalizeModel model) with
  | none => rfl
  | some spelling => exact (exists_got_of_first? first).1

end CacheLog

/-! ## One request -/

namespace TableCache

variable {cache : TableCache} {source : SheetSource} {model key : String} {shared : SharedTable}

/-- After a request those tables are kept that were kept before, and the one that the
request was answered with. -/
theorem find?_load :
    (cache.load source model).2.tables.find? key = some shared ↔
      cache.tables.find? key = some shared ∨
        normalizeModel model = key ∧ (cache.load source model).1 = .ok (some shared) := by
  rcases cache.load_cases source model with ⟨found, kept, load⟩ | ⟨none, table, -, load⟩ |
    ⟨none, -, load⟩
  · rw [load, Except.ok.injEq, Option.some.injEq]
    refine ⟨.inl, ?_⟩
    rintro (earlier | ⟨rfl, rfl⟩)
    · exact earlier
    · exact kept
  · rw [load, Bindings.find?_bind, Except.ok.injEq, Option.some.injEq]
    by_cases same : normalizeModel model = key
    · rw [if_pos same, ← same, none]
      simp
    · simp [same]
  · rw [load]
    cases loadTable source model <;> simp [Except.map]

/-- A request never takes a number back. -/
theorem compiled_le_load (cache : TableCache) (source : SheetSource) (model : String) :
    cache.compiled ≤ (cache.load source model).2.compiled := by
  rcases cache.load_cases source model with ⟨_, -, load⟩ | ⟨-, _, -, load⟩ | ⟨-, -, load⟩
  · rw [load]
  · rw [load]
    exact Nat.le_succ _
  · rw [load]

end TableCache

/-! ## Runs -/

/-- A cache in use: the sheets behind it at present, and what has happened so far. -/
structure CacheRun where
  source : SheetSource
  cache : TableCache
  log : CacheLog

namespace CacheRun

/-- An empty cache, of which nothing has been asked. -/
def start (source : SheetSource) : CacheRun :=
  ⟨source, .empty, []⟩

/-- Performs one operation. -/
def step (run : CacheRun) : CacheOperation → CacheRun
  | .get model =>
    let (outcome, cache) := run.cache.load run.source model
    ⟨run.source, cache, run.log ++ [.got model outcome]⟩
  | .invalidate => ⟨run.source, run.cache.clear, run.log ++ [.invalidated]⟩
  | .replace source => ⟨source, run.cache, run.log ++ [.replaced]⟩

/-- The run that performs operations one after the other. -/
def after (source : SheetSource) (operations : List CacheOperation) : CacheRun :=
  operations.foldl step (start source)

/-- The sheets are the same as when the tables were last forgotten. -/
def Unchanged (run : CacheRun) : Prop :=
  .replaced ∉ run.log.recent

/-- How a cache and the log of its run belong together. -/
structure Consistent (run : CacheRun) : Prop where
  /-- Those tables are kept that were handed out since the tables were last forgotten. -/
  kept : ∀ key shared,
    run.cache.tables.find? key = some shared ↔ run.log.Returned key shared
  /-- The next table to be compiled gets a number that no table has. -/
  numbered : ∀ shared, run.log.Given shared → shared.number < run.cache.compiled
  /-- An unchanged workbook has answered everything since then. -/
  answered : run.Unchanged → ∀ model outcome, .got model outcome ∈ run.log.recent →
    outcome.map (·.map SharedTable.table) = loadTable run.source (run.log.firstSpelling model)

variable {run : CacheRun}

theorem consistent_start (source : SheetSource) : (start source).Consistent where
  kept key shared := by simp [start, TableCache.empty, CacheLog.Returned, CacheLog.recent]
  numbered shared given := by simp [start, CacheLog.Given] at given
  answered _ model outcome member := by simp [start, CacheLog.recent] at member

/-! ## What a request is answered with -/

section Request

variable {model : String} {shared : SharedTable} {table : Table}

/-- A table that was handed out is handed out again. -/
theorem Consistent.load_of_returned (consistent : run.Consistent)
    (returned : run.log.Returned (normalizeModel model) shared) :
    run.cache.load run.source model = (.ok (some shared), run.cache) := by
  have kept := (consistent.kept _ _).2 returned
  rcases run.cache.load_cases run.source model with ⟨found, again, load⟩ | ⟨none, -⟩ | ⟨none, -⟩
  · cases again.symm.trans kept
    exact load
  · cases none.symm.trans kept
  · cases none.symm.trans kept

/-- Nothing is kept of a model whose table was not handed out. -/
theorem Consistent.find?_eq_none (consistent : run.Consistent)
    (missing : ∀ shared, ¬run.log.Returned (normalizeModel model) shared) :
    run.cache.tables.find? (normalizeModel model) = none := by
  rw [Option.eq_none_iff_forall_ne_some]
  exact fun shared kept => missing shared ((consistent.kept _ _).1 kept)

/-- A table that was not handed out is compiled as a new object, and kept. -/
theorem Consistent.load_of_loadTable (consistent : run.Consistent)
    (missing : ∀ shared, ¬run.log.Returned (normalizeModel model) shared)
    (loaded : loadTable run.source model = .ok (some table)) :
    ∃ shared cache, run.cache.load run.source model = (.ok (some shared), cache) ∧
      shared.table = table ∧ (∀ earlier, run.log.Given earlier → shared.number ≠ earlier.number) ∧
      ∀ name, cache.tables.find? name =
        if normalizeModel model = name then some shared else run.cache.tables.find? name := by
  have unkept := consistent.find?_eq_none missing
  rcases run.cache.load_cases run.source model with ⟨found, kept, -⟩ |
    ⟨-, other, otherLoaded, load⟩ | ⟨-, unloaded, -⟩
  · cases unkept.symm.trans kept
  · cases otherLoaded.symm.trans loaded
    refine ⟨_, _, load, rfl, fun earlier given same => ?_, fun name => Bindings.find?_bind ..⟩
    exact absurd (consistent.numbered earlier given) (by simp [← same])
  · exact absurd loaded (unloaded table)

/-- What is not a table is not kept. -/
theorem Consistent.load_of_not_loadTable (consistent : run.Consistent)
    (missing : ∀ shared, ¬run.log.Returned (normalizeModel model) shared)
    (unloaded : ∀ table, loadTable run.source model ≠ .ok (some table)) :
    run.cache.load run.source model =
      ((loadTable run.source model).map fun _ => none, run.cache) := by
  have unkept := consistent.find?_eq_none missing
  rcases run.cache.load_cases run.source model with ⟨found, kept, -⟩ | ⟨-, table, loaded, -⟩ |
    ⟨-, -, load⟩
  · cases unkept.symm.trans kept
  · exact absurd loaded (unloaded table)
  · exact load

/-- The number of a table that a request is answered with is taken from then on. -/
theorem Consistent.number_lt_of_load (consistent : run.Consistent)
    (answered : (run.cache.load run.source model).1 = .ok (some shared)) :
    shared.number < (run.cache.load run.source model).2.compiled := by
  rcases run.cache.load_cases run.source model with ⟨found, kept, load⟩ | ⟨-, other, -, load⟩ |
    ⟨-, -, load⟩
  · rw [load] at answered ⊢
    cases answered
    exact consistent.numbered _ ((consistent.kept _ _).1 kept).given
  · rw [load] at answered ⊢
    cases answered
    exact Nat.lt_succ_self _
  · rw [load] at answered
    cases found : loadTable run.source model <;> rw [found] at answered <;> cases answered

/-- What is answered about a model whose table was not handed out, is what the workbook has
for it. -/
theorem Consistent.load_of_missing (consistent : run.Consistent)
    (missing : ∀ shared, ¬run.log.Returned (normalizeModel model) shared) :
    (run.cache.load run.source model).1.map (·.map SharedTable.table) =
      loadTable run.source model := by
  cases loaded : loadTable run.source model with
  | error error =>
    rw [consistent.load_of_not_loadTable missing (by simp [loaded]), loaded]
    rfl
  | ok answer =>
    cases answer with
    | none =>
      rw [consistent.load_of_not_loadTable missing (by simp [loaded]), loaded]
      rfl
    | some table =>
      obtain ⟨shared, cache, load, rfl, -⟩ := consistent.load_of_loadTable missing loaded
      rw [load]
      rfl

/-- An unchanged workbook that has given no table for a model has the same for all its
spellings. -/
theorem Consistent.loadTable_firstSpelling (consistent : run.Consistent)
    (unchanged : run.Unchanged)
    (missing : ∀ shared, ¬run.log.Returned (normalizeModel model) shared) :
    loadTable run.source (run.log.firstSpelling model) = loadTable run.source model := by
  cases first : run.log.first? (normalizeModel model) with
  | none => rw [CacheLog.firstSpelling, first, Option.getD_none]
  | some spelling =>
    obtain ⟨same, outcome, member⟩ := CacheLog.exists_got_of_first? first
    have answered := consistent.answered unchanged spelling outcome member
    rw [CacheLog.firstSpelling, same, first, Option.getD_some] at answered
    rw [CacheLog.firstSpelling, first, Option.getD_some, loadTable_respelled same, ← answered]
    cases outcome with
    | error error => rfl
    | ok answer =>
      cases answer with
      | none => rfl
      | some shared => exact absurd ⟨spelling, same, member⟩ (missing shared)

/-- While the workbook stays the same, a request is answered with what the workbook has for
the first spelling of the model. -/
theorem Consistent.load_eq_loadTable (consistent : run.Consistent) (unchanged : run.Unchanged)
    (model : String) :
    (run.cache.load run.source model).1.map (·.map SharedTable.table) =
      loadTable run.source (run.log.firstSpelling model) := by
  by_cases returned : ∃ shared, run.log.Returned (normalizeModel model) shared
  · obtain ⟨shared, returned⟩ := returned
    rw [consistent.load_of_returned returned]
    obtain ⟨spelling, same, member⟩ := returned
    have answered := consistent.answered unchanged spelling _ member
    obtain ⟨first, requested⟩ := Option.isSome_iff_exists.1 (CacheLog.first?_isSome_of_mem member)
    rw [CacheLog.firstSpelling, requested] at answered
    rw [CacheLog.firstSpelling, ← same, requested]
    exact answered
  · have missing := not_exists.1 returned
    rw [consistent.load_of_missing missing, consistent.loadTable_firstSpelling unchanged missing]

end Request

/-! ## Every operation keeps a cache consistent -/

theorem step_get (model : String) :
    run.step (.get model) = ⟨run.source, (run.cache.load run.source model).2,
      run.log ++ [.got model (run.cache.load run.source model).1]⟩ := rfl

/-- A request keeps a cache consistent. -/
theorem Consistent.get (consistent : run.Consistent) (model : String) :
    (run.step (.get model)).Consistent where
  kept key shared := by
    rw [step_get, CacheLog.returned_concat_got, ← consistent.kept]
    exact TableCache.find?_load
  numbered shared given := by
    rw [step_get, CacheLog.given_concat_got] at given
    rw [step_get]
    rcases given with earlier | answered
    · have later := run.cache.compiled_le_load run.source model
      exact (consistent.numbered shared earlier).trans_le later
    · exact consistent.number_lt_of_load answered
  answered unchanged other outcome member := by
    have before : run.Unchanged := by simpa [Unchanged, step_get] using unchanged
    rw [step_get, CacheLog.recent_concat_got, List.mem_append, List.mem_singleton] at member
    rw [step_get]
    rcases member with earlier | same
    · rw [CacheLog.firstSpelling_concat_of_mem earlier]
      exact consistent.answered before other outcome earlier
    · obtain ⟨rfl, rfl⟩ := CacheEvent.got.inj same
      rw [CacheLog.firstSpelling_concat_self]
      exact consistent.load_eq_loadTable before other

theorem Consistent.invalidate (consistent : run.Consistent) :
    (run.step .invalidate).Consistent where
  kept key shared := by simp [CacheRun.step, TableCache.clear]
  numbered shared given := consistent.numbered shared (CacheLog.given_concat_invalidated.1 given)
  answered _ model outcome member := by simp [CacheRun.step] at member

theorem Consistent.replace (consistent : run.Consistent) (source : SheetSource) :
    (run.step (.replace source)).Consistent where
  kept key shared := by simpa [CacheRun.step] using consistent.kept key shared
  numbered shared given := consistent.numbered shared (CacheLog.given_concat_replaced.1 given)
  answered unchanged := by simp [Unchanged, CacheRun.step] at unchanged

/-- Every operation keeps a cache consistent. -/
theorem Consistent.step (consistent : run.Consistent) (operation : CacheOperation) :
    (run.step operation).Consistent := by
  cases operation with
  | get model => exact consistent.get model
  | invalidate => exact consistent.invalidate
  | replace source => exact consistent.replace source

theorem consistent_after (source : SheetSource) (operations : List CacheOperation) :
    (after source operations).Consistent := by
  have all : ∀ run : CacheRun, run.Consistent →
      (operations.foldl CacheRun.step run).Consistent := by
    induction operations with
    | nil => exact fun _ consistent => consistent
    | cons operation rest ih => exact fun run consistent => ih _ (consistent.step operation)
  exact all _ (consistent_start source)

/-- As many tables are kept as there are models whose tables were handed out. -/
theorem Consistent.size (consistent : run.Consistent) :
    run.cache.size = run.log.loadedModels.toFinset.card := by
  have same : run.cache.tables.names.toFinset = run.log.loadedModels.toFinset := by
    ext key
    rw [List.mem_toFinset, List.mem_toFinset, Bindings.mem_names, CacheLog.mem_loadedModels]
    simp only [consistent.kept]
  have distinct : run.cache.tables.names.Nodup := run.cache.tables.distinct
  rw [← same, List.toFinset_card_of_nodup distinct, Bindings.names, List.length_map]
  rfl

/-- After any run, a request for a model is answered with the table that was handed out for
it since the tables were last forgotten, the same object, even if the workbook was replaced
since.  If there is none it is answered as the present workbook says; only a table is kept,
as a new object, and nothing else that is kept changes.

As many tables are kept as different models were loaded.  And while the workbook stays the
same, the answer is what the workbook has for the model, but for the spelling that a warning
shows, which is that of the first request. -/
theorem load_after (source : SheetSource) (operations : List CacheOperation) (model : String) :
    let run := after source operations
    let key := normalizeModel model
    let first := run.log.firstSpelling model
    (∀ shared, run.log.Returned key shared →
      run.cache.load run.source model = (.ok (some shared), run.cache)) ∧
    ((∀ shared, ¬run.log.Returned key shared) →
      (∀ table, loadTable run.source model = .ok (some table) →
        ∃ shared cache, run.cache.load run.source model = (.ok (some shared), cache) ∧
          shared.table = table ∧
          (∀ earlier, run.log.Given earlier → shared.number ≠ earlier.number) ∧
          ∀ name, cache.tables.find? name =
            if key = name then some shared else run.cache.tables.find? name) ∧
      ((∀ table, loadTable run.source model ≠ .ok (some table)) →
        run.cache.load run.source model =
          ((loadTable run.source model).map fun _ => none, run.cache))) ∧
    run.cache.size = run.log.loadedModels.toFinset.card ∧
    (run.Unchanged →
      (run.cache.load run.source model).1.map (·.map SharedTable.table) =
        loadTable run.source first ∧
      loadTable run.source first =
        (loadTable run.source model).map (·.map (Table.respelled (Text.trimmed first)))) := by
  intro run key first
  have consistent : run.Consistent := consistent_after source operations
  exact ⟨fun _ => consistent.load_of_returned,
    fun missing => ⟨fun _ => consistent.load_of_loadTable missing,
      consistent.load_of_not_loadTable missing⟩,
    consistent.size,
    fun unchanged => ⟨consistent.load_eq_loadTable unchanged model,
      loadTable_respelled (CacheLog.normalizeModel_firstSpelling model).symm run.source⟩⟩

end CacheRun

end InstrumentBench
