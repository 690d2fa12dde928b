import InstrumentBench.Text.Blank
import InstrumentBench.Text.Split
import Mathlib.Data.List.DropRight

/-!
# Cuts and trims of known texts

What the operations on texts find in a text that was put together: the pieces
between separators, the first occurrence of a pattern, and what is left when the
blanks at its ends are taken away.  `cutAt_append` and `fields_flatMap` are the two main statements;
each asks only that the separator does not stand earlier already.
-/

namespace InstrumentBench.Text

theorem afterOpening_append (opening text : List Char) :
    afterOpening opening (opening ++ text) = some text :=
  afterOpening_eq_some.2 rfl

/-- A pattern is found at its first character if that character does not stand
earlier. -/
theorem cutAt_append {first : Char} {before : List Char} (absent : first ∉ before)
    (pattern after : List Char) :
    cutAt (first :: pattern) (before ++ (first :: pattern ++ after)) = some (before, after) := by
  induction before with
  | nil =>
    rw [List.nil_append, List.cons_append, cutAt, ← List.cons_append, afterOpening_append]
  | cons c before ih =>
    have different : first ≠ c := fun same => absent (by simp [same])
    have later : first ∉ before := fun member => absent (List.mem_cons_of_mem c member)
    rw [List.cons_append, cutAt, afterOpening, if_neg different, ih later]
    rfl

/-- What a cut finds, with the pattern put back, is the text. -/
theorem eq_append_of_cutAt {pattern text before after : List Char}
    (found : cutAt pattern text = some (before, after)) : text = before ++ (pattern ++ after) := by
  induction text generalizing before with
  | nil =>
    rw [cutAt] at found
    split at found
    next empty =>
      cases found
      simp [empty]
    next => cases found
  | cons c rest ih =>
    rw [cutAt] at found
    split at found
    next opened =>
      cases found
      rw [List.nil_append, afterOpening_eq_some.1 opened]
    next =>
      obtain ⟨⟨before, after⟩, inner, same⟩ := Option.map_eq_some_iff.1 found
      cases same
      rw [List.cons_append, ← ih inner]

/-- The first field ends at the first separator. -/
theorem fields_append {separator : Char} {piece : List Char} (absent : separator ∉ piece)
    (rest : List Char) :
    fields separator (piece ++ separator :: rest) = piece :: fields separator rest := by
  induction piece with
  | nil =>
    rw [List.nil_append, fields]
    split
    next empty => exact absurd empty (fields_ne_nil separator rest)
    next first others found => rw [if_pos rfl, found]
  | cons c piece ih =>
    have different : c ≠ separator := fun same => absent (by simp [same])
    have later : separator ∉ piece := fun member => absent (List.mem_cons_of_mem c member)
    rw [List.cons_append, fields, ih later]
    exact if_neg different

/-- Pieces that are each ended by a separator are read back, and nothing stands
after the last one. -/
theorem fields_flatMap {separator : Char} {pieces : List (List Char)}
    (absent : ∀ piece ∈ pieces, separator ∉ piece) :
    fields separator (pieces.flatMap (· ++ [separator])) = pieces ++ [[]] := by
  induction pieces with
  | nil => rfl
  | cons piece pieces ih =>
    have head := absent piece List.mem_cons_self
    have tail := ih fun other member => absent other (List.mem_cons_of_mem piece member)
    rw [List.flatMap_cons, List.append_assoc, List.singleton_append, fields_append head, tail]
    rfl

/-- A text that neither starts nor ends with a blank is left as it is. -/
theorem trim_eq_self {text : List Char} (first : ∀ c ∈ text.head?, isBlank c = false)
    (last : ∀ c ∈ text.getLast?, isBlank c = false) : trim text = text := by
  have start : trimStart text = text := by
    cases text with
    | nil => rfl
    | cons c rest => exact List.dropWhile_cons_of_neg (by simp [first c rfl])
  rw [trim, start]
  refine List.rdropWhile_eq_self_iff.2 fun nonempty => ?_
  simp [last _ (List.getLast?_eq_getLast_of_ne_nil nonempty)]

/-- A text without blanks is left as it is. -/
theorem trim_of_visible {text : List Char} (visible : ∀ c ∈ text, isBlank c = false) :
    trim text = text := by
  apply trim_eq_self
  · exact fun c first => visible c (List.mem_of_head? first)
  · exact fun c last => visible c (List.mem_of_getLast? last)

/-- Trimming leaves nothing of a text exactly if all of it is blank. -/
theorem trim_eq_nil {text : List Char} : trim text = [] ↔ ∀ c ∈ text, isBlank c := by
  have inner : trim text = [] ↔ ∀ c ∈ trimStart text, isBlank c := List.rdropWhile_eq_nil_iff
  rw [inner]
  constructor
  · intro blank
    cases kept : trimStart text with
    | nil => exact List.dropWhile_eq_nil_iff.1 kept
    | cons c rest =>
      have notBlank := List.head?_dropWhile_not isBlank text
      rw [← trimStart, kept] at notBlank
      simp [blank c (by simp [kept])] at notBlank
  · intro blank c member
    exact blank c ((List.dropWhile_suffix isBlank).mem member)

/-- Trimming the end of a text takes away as much as it can, and nothing that it has
to keep. -/
theorem trimEndOf_append (drop : Char → Bool) (text : List Char) :
    ∃ ends, text = trimEndOf drop text ++ ends ∧ (∀ c ∈ ends, drop c) ∧
      ∀ c ∈ (trimEndOf drop text).getLast?, drop c = false := by
  have rest : trimEndOf drop text = text.rdropWhile drop := rfl
  rw [rest]
  refine ⟨text.rtakeWhile drop, List.rdropWhile_append_rtakeWhile.symm,
    fun c member => List.mem_rtakeWhile_imp member, fun c last => ?_⟩
  obtain ⟨kept, rfl⟩ := List.mem_getLast?_eq_getLast last
  simpa using List.rdropWhile_last_not drop text kept

/-- Trimming leaves nothing of a string exactly if it is blank. -/
theorem trimmed_eq_empty {text : String} : trimmed text = "" ↔ allBlank text := by
  rw [trimmed, String.ofList_eq_empty_iff, trim_eq_nil, allBlank, List.all_eq_true]

end InstrumentBench.Text
