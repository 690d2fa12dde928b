import InstrumentBench.Proofs.Text.Bytes
import InstrumentBench.Storage.Disk
import Mathlib.Algebra.BigOperators.Group.Finset.Piecewise
import Mathlib.Tactic.Common

/-!
# Lines of files

The lines of a file are counted by the bytes that end them.  A text in UTF-8 has as many
of these as it has line breaks (`count_lineEnd_toUTF8`), and a directory in which one file
grows has as many lines more as that file (`linesBelow_of_bytesAt`).
-/

namespace InstrumentBench

/-- The byte that ends a line. -/
def lineEnd : UInt8 := 10

theorem lineEnd_ne_ofNat {byte : Nat} (low : 128 ≤ byte) (high : byte < 256) :
    lineEnd ≠ UInt8.ofNat byte := by
  intro same
  have value : lineEnd.toNat = byte := by
    rw [same]
    exact UInt8.toNat_ofNat_of_lt' high
  have ten : lineEnd.toNat = 10 := rfl
  omega

/-- Only a line break is encoded with the byte that ends a line. -/
theorem count_lineEnd_utf8EncodeChar (c : Char) :
    (String.utf8EncodeChar c).count lineEnd = if c = '\n' then 1 else 0 := by
  have code : c.val.toNat = 10 ↔ c = '\n' := by
    rw [Char.ext_iff, ← UInt32.toNat_inj]
    rfl
  unfold String.utf8EncodeChar
  dsimp only
  split
  next ascii =>
    have small : c.val.toNat < UInt8.size := Nat.lt_of_le_of_lt ascii (by decide)
    have byte : UInt8.ofNat c.val.toNat = lineEnd ↔ c = '\n' := by
      rw [← UInt8.toNat_inj, UInt8.toNat_ofNat_of_lt' small, ← code]
      rfl
    simp only [List.count_singleton, beq_iff_eq, byte]
  next wide =>
    have other : c ≠ '\n' := fun same => wide (by rw [code.2 same]; decide)
    rw [if_neg other, List.count_eq_zero]
    split
    next =>
      simp only [List.mem_cons, List.not_mem_nil, or_false, not_or]
      exact ⟨lineEnd_ne_ofNat (by omega) (by omega), lineEnd_ne_ofNat (by omega) (by omega)⟩
    split
    next =>
      simp only [List.mem_cons, List.not_mem_nil, or_false, not_or]
      exact ⟨lineEnd_ne_ofNat (by omega) (by omega), lineEnd_ne_ofNat (by omega) (by omega),
        lineEnd_ne_ofNat (by omega) (by omega)⟩
    next =>
      simp only [List.mem_cons, List.not_mem_nil, or_false, not_or]
      exact ⟨lineEnd_ne_ofNat (by omega) (by omega), lineEnd_ne_ofNat (by omega) (by omega),
        lineEnd_ne_ofNat (by omega) (by omega), lineEnd_ne_ofNat (by omega) (by omega)⟩

/-- A text in UTF-8 has as many line ends as line breaks. -/
theorem count_lineEnd_toUTF8 (text : String) :
    text.toUTF8.data.toList.count lineEnd = text.toList.count '\n' := by
  rw [← Text.bytes, Text.bytes_eq]
  induction text.toList with
  | nil => rfl
  | cons c rest ih =>
    rw [List.flatMap_cons, List.count_append, ih, count_lineEnd_utf8EncodeChar, List.count_cons,
      Nat.add_comm]
    simp only [beq_iff_eq]

namespace Disk

/-- What the file at a place holds; nothing if no file stands there. -/
def bytesAt (disk : Disk) (place : Place) : List UInt8 :=
  match disk.node? place with
  | some (.file contents) => contents.data.toList
  | _ => []

/-- The places that a disk has nodes for. -/
def places (disk : Disk) : Finset Place :=
  (disk.nodes.map Prod.fst).toFinset

/-- The lines of all files in a directory. -/
def linesBelow (disk : Disk) (directory : Place) : Nat :=
  ∑ place ∈ disk.places with place.dropLast = directory, (disk.bytesAt place).count lineEnd

theorem bytesAt_of_not_mem_places {disk : Disk} {place : Place} (absent : place ∉ disk.places) :
    disk.bytesAt place = [] := by
  have missing : disk.nodes.lookup place = none := by
    refine List.lookup_eq_none_iff.2 fun entry member => ?_
    have other : place ≠ entry.1 := by
      rintro rfl
      exact absent (List.mem_toFinset.2 (List.mem_map_of_mem member))
    simp [other]
  rw [bytesAt, node?, missing]
  by_cases root : place = []
  · rw [if_pos root]
  · rw [if_neg root]

/-- Other places may be counted too. -/
theorem linesBelow_eq_sum {disk : Disk} {places : Finset Place} (whole : disk.places ⊆ places)
    (directory : Place) :
    disk.linesBelow directory =
      ∑ place ∈ places with place.dropLast = directory, (disk.bytesAt place).count lineEnd := by
  refine Finset.sum_subset (Finset.filter_subset_filter _ whole) fun place inside outside => ?_
  have absent : place ∉ disk.places := fun member =>
    outside (Finset.mem_filter.2 ⟨member, (Finset.mem_filter.1 inside).2⟩)
  rw [bytesAt_of_not_mem_places absent, List.count_nil]

/-- The lines of a directory are more by those added to one of its files. -/
theorem linesBelow_of_bytesAt {before after : Disk} {place : Place} {added : List UInt8}
    (bytes : ∀ other, after.bytesAt other =
      before.bytesAt other ++ if other = place then added else []) :
    after.linesBelow place.dropLast = before.linesBelow place.dropLast + added.count lineEnd := by
  have beforeWhole : before.places ⊆ insert place (before.places ∪ after.places) :=
    Finset.subset_union_left.trans (Finset.subset_insert _ _)
  have afterWhole : after.places ⊆ insert place (before.places ∪ after.places) :=
    Finset.subset_union_right.trans (Finset.subset_insert _ _)
  have counted : ∀ other, (after.bytesAt other).count lineEnd =
      (before.bytesAt other).count lineEnd + if other = place then added.count lineEnd else 0 := by
    intro other
    rw [bytes, List.count_append]
    split <;> rfl
  have here : place ∈ (insert place (before.places ∪ after.places)).filter
      (·.dropLast = place.dropLast) := by
    simp
  rw [linesBelow_eq_sum beforeWhole, linesBelow_eq_sum afterWhole,
    Finset.sum_congr rfl fun other _ => counted other, Finset.sum_add_distrib,
    Finset.sum_ite_eq' _ place, if_pos here]

end Disk

end InstrumentBench
