/-!
# Sets of names in order

The names of placeholders and of declared parameters are compared and shown as
sets.  A set is kept as its list of members in increasing order, each once.
Strings are ordered by their code points, which is also the order of their
UTF-8 bytes.
-/

namespace InstrumentBench.Text

/-- Inserts a name at its place unless the set has it already. -/
def insertName (name : String) : List String → List String
  | [] => [name]
  | head :: rest =>
    if name < head then name :: head :: rest
    else if name = head then head :: rest
    else head :: insertName name rest

/-- The members of a list in increasing order, each once. -/
def nameSet (names : List String) : List String :=
  names.foldr insertName []

theorem mem_insertName {name other : String} {set : List String} :
    other ∈ insertName name set ↔ other = name ∨ other ∈ set := by
  induction set with
  | nil => simp [insertName]
  | cons head rest ih =>
    unfold insertName
    split
    · simp
    · split
      next same => subst same; simp
      · simp only [List.mem_cons, ih]
        constructor
        · rintro (h | h | h) <;> simp [h]
        · rintro (h | h | h) <;> simp [h]

/-- A set has the members of the list it was made from. -/
theorem mem_nameSet {name : String} {names : List String} :
    name ∈ nameSet names ↔ name ∈ names := by
  induction names with
  | nil => simp [nameSet]
  | cons head rest ih =>
    simp only [nameSet, List.foldr_cons, List.mem_cons] at ih ⊢
    rw [mem_insertName, ih]

end InstrumentBench.Text
