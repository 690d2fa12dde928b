import InstrumentBench.Text.Sorted
import Mathlib.Data.List.Sort
import Mathlib.Data.String.Basic

/-!
# Sets of names as increasing lists

A set of names is kept as the increasing list of its members.  Two lists have the same
set therefore exactly if they have the same members, whatever their order and however
often each stands there.
-/

namespace InstrumentBench.Text

theorem sortedLT_insertName {set : List String} (sorted : set.SortedLT) (name : String) :
    (insertName name set).SortedLT := by
  rw [List.sortedLT_iff_pairwise] at sorted ⊢
  induction set with
  | nil => exact List.pairwise_singleton _ _
  | cons head rest ih =>
    obtain ⟨least, tail⟩ := List.pairwise_cons.1 sorted
    rw [insertName]
    split
    next before =>
      refine List.pairwise_cons.2 ⟨fun other member => ?_, sorted⟩
      rcases List.mem_cons.1 member with rfl | later
      · exact before
      · exact before.trans (least other later)
    next notBefore =>
      split
      next => exact sorted
      next different =>
        have after : head < name := lt_of_le_of_ne (not_lt.1 notBefore) (Ne.symm different)
        refine List.pairwise_cons.2 ⟨fun other member => ?_, ih tail⟩
        rcases mem_insertName.1 member with rfl | later
        · exact after
        · exact least other later

theorem sortedLT_nameSet (names : List String) : (nameSet names).SortedLT := by
  induction names with
  | nil => exact List.Pairwise.nil.sortedLT
  | cons name rest ih => exact sortedLT_insertName ih name

/-- Lists have the same set exactly if they have the same members. -/
theorem nameSet_eq_nameSet {names others : List String} :
    nameSet names = nameSet others ↔ ∀ name, name ∈ names ↔ name ∈ others := by
  constructor
  · intro same name
    rw [← mem_nameSet, same, mem_nameSet]
  · intro members
    refine (sortedLT_nameSet names).eq_of_mem_iff (sortedLT_nameSet others) fun name => ?_
    rw [mem_nameSet, mem_nameSet, members]

end InstrumentBench.Text
