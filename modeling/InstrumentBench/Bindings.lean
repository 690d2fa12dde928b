/-!
# Bindings

Names bound to things: parameter values, scripted replies, cached tables, the
handles of a script.  A name is bound at most once; binding it again replaces
what it was bound to.

`find?_bind` says what a look-up sees after a binding, and `ofList_entries` that
bindings are made again from their entries.
-/

namespace InstrumentBench

/-- Names bound to things of a type, each at most once. -/
structure Bindings (α : Type) where
  entries : List (String × α)
  distinct : (entries.map Prod.fst).Nodup
  deriving DecidableEq, Repr

namespace Bindings

variable {α : Type}

def empty : Bindings α := ⟨[], List.nodup_nil⟩

/-- The names bound, in the order in which they were last bound. -/
def names (bindings : Bindings α) : List String :=
  bindings.entries.map Prod.fst

def size (bindings : Bindings α) : Nat :=
  bindings.entries.length

def isEmpty (bindings : Bindings α) : Bool :=
  bindings.entries.isEmpty

/-- What a name is bound to. -/
def find? (bindings : Bindings α) (name : String) : Option α :=
  (bindings.entries.find? (·.1 = name)).map Prod.snd

/-- The entries with a name left out. -/
def without (name : String) (entries : List (String × α)) : List (String × α) :=
  entries.filter (·.1 ≠ name)

theorem distinct_bind (bindings : Bindings α) (name : String) (value : α) :
    ((without name bindings.entries ++ [(name, value)]).map Prod.fst).Nodup := by
  have kept : ((without name bindings.entries).map Prod.fst).Nodup :=
    (List.filter_sublist.map Prod.fst).nodup bindings.distinct
  rw [List.map_append, List.nodup_append]
  refine ⟨kept, by simp, ?_⟩
  intro other member last found same
  simp only [List.map_cons, List.map_nil, List.mem_singleton] at found
  subst found same
  simp [without] at member

/-- Binds a name, whatever it was bound to before. -/
def bind (bindings : Bindings α) (name : String) (value : α) : Bindings α :=
  ⟨without name bindings.entries ++ [(name, value)], distinct_bind bindings name value⟩

/-- The bindings made one after the other from a list. -/
def ofList (entries : List (String × α)) : Bindings α :=
  entries.foldl (fun bindings entry => bindings.bind entry.1 entry.2) empty

@[simp] theorem find?_empty (name : String) : (empty : Bindings α).find? name = none := rfl

theorem find?_without (name other : String) (entries : List (String × α)) :
    (without name entries).find? (·.1 = other) =
      if name = other then none else entries.find? (·.1 = other) := by
  induction entries with
  | nil => simp [without]
  | cons entry rest ih =>
    unfold without at ih ⊢
    by_cases kept : entry.1 = name
    · rw [List.filter_cons_of_neg (by simp [kept]), ih]
      split
      · rfl
      next different => rw [List.find?_cons_of_neg (by simp [kept, different])]
    · rw [List.filter_cons_of_pos (by simp [kept])]
      by_cases found : entry.1 = other
      · have different : name ≠ other := fun same => kept (by rw [found, same])
        simp [found, different]
      · rw [List.find?_cons_of_neg (by simp [found]), List.find?_cons_of_neg (by simp [found]), ih]

/-- After a binding, its name finds the new value and every other name what it
found before. -/
theorem find?_bind (bindings : Bindings α) (name other : String) (value : α) :
    (bindings.bind name value).find? other =
      if name = other then some value else bindings.find? other := by
  unfold find? bind
  rw [List.find?_append, find?_without]
  by_cases same : name = other
  · simp [same]
  · simp [same]

/-- The names bound are those that find something. -/
theorem mem_names {bindings : Bindings α} {name : String} :
    name ∈ bindings.names ↔ ∃ value, bindings.find? name = some value := by
  rw [← Option.isSome_iff_exists, find?, Option.isSome_map, List.find?_isSome, names,
    List.mem_map]
  simp

theorem eq_of_entries {first second : Bindings α} (same : first.entries = second.entries) :
    first = second := by
  cases first
  cases second
  cases same
  rfl

/-- Binding a name that is not bound adds its entry at the end. -/
theorem entries_bind_of_fresh {bindings : Bindings α} {name : String} (value : α)
    (fresh : name ∉ bindings.names) :
    (bindings.bind name value).entries = bindings.entries ++ [(name, value)] := by
  have kept : without name bindings.entries = bindings.entries := by
    apply List.filter_eq_self.mpr
    intro entry member
    have other : entry.1 ≠ name := by
      intro same
      apply fresh
      rw [← same]
      exact List.mem_map_of_mem member
    simpa using other
  change without name bindings.entries ++ [(name, value)] = _
  rw [kept]

/-- Bindings are made again from their entries. -/
theorem ofList_entries (bindings : Bindings α) : ofList bindings.entries = bindings := by
  -- the names of the entries still to come are not among those bound so far
  have continued : ∀ (rest : List (String × α)) (start : Bindings α),
      ((start.entries ++ rest).map Prod.fst).Nodup →
        (rest.foldl (fun bindings entry => bindings.bind entry.1 entry.2) start).entries =
          start.entries ++ rest := by
    intro rest
    induction rest with
    | nil =>
      intro start _
      rw [List.foldl_nil, List.append_nil]
    | cons entry rest ih =>
      intro start distinct
      have fresh : entry.1 ∉ start.names := by
        intro member
        rw [List.map_append, List.map_cons] at distinct
        exact (List.nodup_append.mp distinct).2.2 _ member _ List.mem_cons_self rfl
      have bound := entries_bind_of_fresh entry.2 fresh
      rw [List.foldl_cons, ih, bound, List.append_assoc, List.singleton_append]
      rw [bound, List.append_assoc, List.singleton_append]
      exact distinct
  exact eq_of_entries (continued bindings.entries empty bindings.distinct)

end Bindings

end InstrumentBench
