import InstrumentBench.Bindings
import InstrumentBench.Catalog.Table

/-!
# Table caches

Tables are compiled once per model and then shared.  A model without a sheet
and a sheet that cannot be read are not remembered, so that they are looked up
again.  `load_cases` says all that a look-up does.
-/

namespace InstrumentBench

/-- A table handed out by a cache.  Two of them are the same object if they
have the same number. -/
structure SharedTable where
  number : Nat
  table : Table
  deriving DecidableEq, Repr

/-- The tables compiled so far by normalized model name, and how many have been
compiled ever. -/
structure TableCache where
  tables : Bindings SharedTable
  compiled : Nat

namespace TableCache

def empty : TableCache := ⟨.empty, 0⟩

def size (cache : TableCache) : Nat :=
  cache.tables.size

/-- The table of a model, compiled from the source unless it is kept already. -/
def load (cache : TableCache) (source : SheetSource) (model : String) :
    Except DescriptorError (Option SharedTable) × TableCache :=
  let key := normalizeModel model
  match cache.tables.find? key with
  | some shared => (.ok (some shared), cache)
  | none =>
    match loadTable source model with
    | .error error => (.error error, cache)
    | .ok none => (.ok none, cache)
    | .ok (some table) =>
      let shared : SharedTable := ⟨cache.compiled, table⟩
      (.ok (some shared), ⟨cache.tables.bind key shared, cache.compiled + 1⟩)

/-- What a look-up does: it finds a table that is kept, or it compiles one, which is kept
from then on, or it gives what the source gives and keeps nothing. -/
theorem load_cases (cache : TableCache) (source : SheetSource) (model : String) :
    (∃ shared, cache.tables.find? (normalizeModel model) = some shared ∧
      cache.load source model = (.ok (some shared), cache)) ∨
    (cache.tables.find? (normalizeModel model) = none ∧
      ∃ table, loadTable source model = .ok (some table) ∧
        cache.load source model = (.ok (some ⟨cache.compiled, table⟩),
          ⟨cache.tables.bind (normalizeModel model) ⟨cache.compiled, table⟩,
            cache.compiled + 1⟩)) ∨
    (cache.tables.find? (normalizeModel model) = none ∧
      (∀ table, loadTable source model ≠ .ok (some table)) ∧
        cache.load source model = ((loadTable source model).map fun _ => none, cache)) := by
  simp only [load]
  cases kept : cache.tables.find? (normalizeModel model) with
  | some shared => exact .inl ⟨shared, rfl, rfl⟩
  | none =>
    cases loaded : loadTable source model with
    | error error => exact .inr (.inr ⟨rfl, by simp, rfl⟩)
    | ok answer =>
      cases answer with
      | none => exact .inr (.inr ⟨rfl, by simp, rfl⟩)
      | some table => exact .inr (.inl ⟨rfl, table, rfl, rfl⟩)

/-- Forgets all tables, so that they are compiled anew. -/
def clear (cache : TableCache) : TableCache :=
  { cache with tables := .empty }

end TableCache

end InstrumentBench
