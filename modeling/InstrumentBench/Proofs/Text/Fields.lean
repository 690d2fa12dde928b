import InstrumentBench.Proofs.Text.Cutting

/-!
# Fields and blanks around them

The fields of a text are the only pieces without separators that, joined by separators,
are the text (`fields_eq_iff`).  What stands before or after a text is therefore part of
its first or its last field, and blanks around a text do not show in its trimmed fields
(`map_trim_fields_padded`).
-/

namespace InstrumentBench.Text

@[simp] theorem toList_trimmed (text : String) : (trimmed text).toList = trim text.toList := by
  simp [trimmed]

/-! ## Blanks around a text -/

theorem trimStart_append {before : List Char} (blank : ∀ c ∈ before, isBlank c)
    (text : List Char) : trimStart (before ++ text) = trimStart text :=
  List.dropWhile_append_of_pos blank

theorem trimEnd_append {after : List Char} (blank : ∀ c ∈ after, isBlank c)
    (text : List Char) : trimEnd (text ++ after) = trimEnd text := by
  have reversed : ∀ c ∈ after.reverse, isBlank c := fun c member =>
    blank c (List.mem_reverse.1 member)
  rw [trimEnd, trimEnd, trimEndOf, trimEndOf, List.reverse_append,
    List.dropWhile_append_of_pos reversed]

/-- Blanks around a text are trimmed away with those that it has itself. -/
theorem trim_padded {before after : List Char} (blankBefore : ∀ c ∈ before, isBlank c)
    (blankAfter : ∀ c ∈ after, isBlank c) (text : List Char) :
    trim (before ++ text ++ after) = trim text := by
  rw [List.append_assoc, trim, trimStart_append blankBefore, ← trim]
  by_cases blank : ∀ c ∈ text, isBlank c
  · have all : ∀ c ∈ text ++ after, isBlank c := List.forall_mem_append.2 ⟨blank, blankAfter⟩
    rw [trim_eq_nil.2 all, trim_eq_nil.2 blank]
  · have some : trimStart text ≠ [] := fun none => blank (List.dropWhile_eq_nil_iff.1 none)
    have kept : trimStart (text ++ after) = trimStart text ++ after := by
      rw [trimStart, List.dropWhile_append, ← trimStart, if_neg (by rwa [List.isEmpty_iff])]
    rw [trim, kept, trimEnd_append blankAfter, trim]

/-- Blanks around a string are trimmed away. -/
theorem trimmed_padded {before after : String} (blankBefore : allBlank before)
    (blankAfter : allBlank after) (text : String) :
    trimmed (before ++ text ++ after) = trimmed text := by
  rw [trimmed, trimmed, String.toList_append, String.toList_append,
    trim_padded (List.all_eq_true.1 blankBefore) (List.all_eq_true.1 blankAfter)]

/-- A text is what is left of it by trimming, and blanks around that. -/
theorem exists_padding (text : List Char) :
    ∃ before after, (∀ c ∈ before, isBlank c) ∧ (∀ c ∈ after, isBlank c) ∧
      text = before ++ trim text ++ after := by
  obtain ⟨ends, whole, blankEnds, -⟩ := trimEndOf_append isBlank (trimStart text)
  refine ⟨text.takeWhile isBlank, ends, fun c member => List.mem_takeWhile_imp member, blankEnds,
    ?_⟩
  calc
    text = text.takeWhile isBlank ++ trimStart text := List.takeWhile_append_dropWhile.symm
    _ = text.takeWhile isBlank ++ (trim text ++ ends) := congrArg _ whole
    _ = text.takeWhile isBlank ++ trim text ++ ends := (List.append_assoc ..).symm

@[simp] theorem trim_trim (text : List Char) : trim (trim text) = trim text := by
  obtain ⟨before, after, blankBefore, blankAfter, whole⟩ := exists_padding text
  have same := trim_padded blankBefore blankAfter (trim text)
  rw [← whole] at same
  exact same.symm

/-- Trimming takes away blanks only. -/
theorem count_trim {c : Char} (visible : isBlank c = false) (text : List Char) :
    (trim text).count c = text.count c := by
  have absent : ∀ {blanks : List Char}, (∀ c ∈ blanks, isBlank c) → blanks.count c = 0 := by
    intro blanks blank
    refine List.count_eq_zero.2 fun member => ?_
    simp [blank c member] at visible
  obtain ⟨before, after, blankBefore, blankAfter, whole⟩ := exists_padding text
  have counted := congrArg (List.count c) whole
  rw [List.count_append, List.count_append, absent blankBefore, absent blankAfter] at counted
  omega

/-- What a text without blanks around it ends with, does not end with a blank. -/
theorem trimEnd_eq_self_of_trim_append {start ends : List Char}
    (tight : trim (start ++ ends) = start ++ ends) : trimEnd ends = ends := by
  obtain ⟨blanks, -, -, visible⟩ := trimEndOf_append isBlank (trimStart (start ++ ends))
  refine List.rdropWhile_eq_self_iff.2 fun nonempty => ?_
  have last : ends.getLast nonempty ∈ (trim (start ++ ends)).getLast? := by
    rw [tight, List.getLast?_append_of_ne_nil _ nonempty,
      List.getLast?_eq_getLast_of_ne_nil nonempty]
    rfl
  simp [visible _ last]

/-! ## The fields of a text -/

/-- No field has the separator. -/
theorem not_mem_of_mem_fields {separator : Char} {text piece : List Char}
    (member : piece ∈ fields separator text) : separator ∉ piece := by
  induction text generalizing piece with
  | nil =>
    obtain rfl : piece = [] := by simpa [fields] using member
    exact List.not_mem_nil
  | cons c rest ih =>
    rw [fields] at member
    split at member
    next empty => exact absurd empty (fields_ne_nil separator rest)
    next first others found =>
      rw [found] at ih
      split at member
      next =>
        rcases List.mem_cons.1 member with rfl | later
        · exact List.not_mem_nil
        · exact ih later
      next different =>
        rcases List.mem_cons.1 member with rfl | later
        · exact List.not_mem_cons_of_ne_of_not_mem (Ne.symm different) (ih List.mem_cons_self)
        · exact ih (List.mem_cons_of_mem first later)

theorem fields_eq_singleton {separator : Char} {text : List Char} (absent : separator ∉ text) :
    fields separator text = [text] := by
  induction text with
  | nil => rfl
  | cons c rest ih =>
    obtain ⟨different, later⟩ := List.ne_and_not_mem_of_not_mem_cons absent
    rw [fields, ih later]
    exact if_neg (Ne.symm different)

/-- A separator cuts a text in two. -/
theorem fields_append_cons (separator : Char) (before after : List Char) :
    fields separator (before ++ separator :: after) =
      fields separator before ++ fields separator after := by
  induction before with
  | nil => exact fields_append List.not_mem_nil after
  | cons c rest ih =>
    obtain ⟨first, others, found⟩ := List.exists_cons_of_ne_nil (fields_ne_nil separator rest)
    rw [List.cons_append, fields, fields, ih, found, List.cons_append]
    dsimp only
    split <;> rfl

/-- The fields are the only pieces without separators that joined by separators are the
text. -/
theorem fields_eq_iff {separator : Char} {text : List Char} {pieces : List (List Char)} :
    fields separator text = pieces ↔
      pieces ≠ [] ∧ (∀ piece ∈ pieces, separator ∉ piece) ∧ text = joined separator pieces := by
  constructor
  · rintro rfl
    exact ⟨fields_ne_nil separator text, fun _ => not_mem_of_mem_fields,
      (joined_fields separator text).symm⟩
  · rintro ⟨some, absent, rfl⟩
    induction pieces with
    | nil => contradiction
    | cons piece others ih =>
      obtain ⟨head, tail⟩ := List.forall_mem_cons.1 absent
      cases others with
      | nil => exact fields_eq_singleton head
      | cons next more =>
        rw [joined, fields_append head, ih (List.cons_ne_nil next more) tail]
        exact List.cons_ne_nil next more

theorem mem_joined_iff {separator c : Char} (other : c ≠ separator) {pieces : List (List Char)} :
    c ∈ joined separator pieces ↔ ∃ piece ∈ pieces, c ∈ piece := by
  induction pieces with
  | nil => simp [joined]
  | cons piece others ih =>
    cases others with
    | nil => simp [joined]
    | cons next more =>
      rw [joined.eq_3 _ _ _ (List.cons_ne_nil next more), List.mem_append, List.mem_cons,
        or_iff_right other, ih]
      simp

/-- A text with a separator has two fields at least. -/
theorem exists_fields_of_mem {separator : Char} {text : List Char} (member : separator ∈ text) :
    ∃ first second others, fields separator text = first :: second :: others := by
  obtain ⟨before, after, rfl, absent⟩ := List.eq_append_cons_of_mem member
  obtain ⟨second, others, found⟩ := List.exists_cons_of_ne_nil (fields_ne_nil separator after)
  exact ⟨before, second, others, by rw [fields_append absent, found]⟩

theorem joined_cons_append (separator : Char) (before first : List Char)
    (others : List (List Char)) :
    joined separator ((before ++ first) :: others) =
      before ++ joined separator (first :: others) := by
  cases others with
  | nil => rfl
  | cons next more => simp [joined]

theorem joined_concat_append (separator : Char) (pieces : List (List Char))
    (last after : List Char) :
    joined separator (pieces ++ [last ++ after]) =
      joined separator (pieces ++ [last]) ++ after := by
  induction pieces with
  | nil => rfl
  | cons piece others ih =>
    have longer : ∀ ending : List Char, joined separator (piece :: others ++ [ending]) =
        piece ++ separator :: joined separator (others ++ [ending]) := by
      intro ending
      cases others <;> rfl
    rw [longer, longer, ih, List.append_assoc, List.cons_append]

/-- What stands before a text belongs to its first field. -/
theorem fields_append_left {separator : Char} {before text first : List Char}
    {others : List (List Char)} (absent : separator ∉ before)
    (found : fields separator text = first :: others) :
    fields separator (before ++ text) = (before ++ first) :: others := by
  obtain ⟨-, pieces, rfl⟩ := fields_eq_iff.1 found
  obtain ⟨head, tail⟩ := List.forall_mem_cons.1 pieces
  refine fields_eq_iff.2 ⟨List.cons_ne_nil _ _, List.forall_mem_cons.2 ⟨?_, tail⟩,
    (joined_cons_append separator before first others).symm⟩
  simp [absent, head]

/-- What stands after a text belongs to its last field. -/
theorem fields_append_right {separator : Char} {text after last : List Char}
    {others : List (List Char)} (absent : separator ∉ after)
    (found : fields separator text = others ++ [last]) :
    fields separator (text ++ after) = others ++ [last ++ after] := by
  obtain ⟨-, pieces, rfl⟩ := fields_eq_iff.1 found
  obtain ⟨head, tail⟩ := List.forall_mem_append.1 pieces
  refine fields_eq_iff.2 ⟨by simp, List.forall_mem_append.2 ⟨head, ?_⟩,
    (joined_concat_append separator others last after).symm⟩
  have lastAbsent : separator ∉ last := tail last (List.mem_singleton.2 rfl)
  simp [absent, lastAbsent]

/-- Blanks around a text do not show in its trimmed fields if no separators are among them. -/
theorem map_trim_fields_spaced {separator : Char} {before after : List Char}
    (blankBefore : ∀ c ∈ before, isBlank c) (blankAfter : ∀ c ∈ after, isBlank c)
    (wholeBefore : separator ∉ before) (wholeAfter : separator ∉ after) (text : List Char) :
    (fields separator (before ++ text ++ after)).map trim = (fields separator text).map trim := by
  have start : ∀ text, (fields separator (before ++ text)).map trim =
      (fields separator text).map trim := by
    intro text
    obtain ⟨first, others, found⟩ := List.exists_cons_of_ne_nil (fields_ne_nil separator text)
    have trimmed : trim (before ++ first) = trim first := by
      simpa using trim_padded blankBefore (List.forall_mem_nil _) first
    rw [fields_append_left wholeBefore found, found, List.map_cons, List.map_cons, trimmed]
  have finish : ∀ text, (fields separator (text ++ after)).map trim =
      (fields separator text).map trim := by
    intro text
    obtain ⟨others, last, found⟩ :=
      (List.eq_nil_or_concat' (fields separator text)).resolve_left (fields_ne_nil separator text)
    have trimmed : trim (last ++ after) = trim last := by
      simpa using trim_padded (List.forall_mem_nil _) blankAfter last
    rw [fields_append_right wholeAfter found, found, List.map_append, List.map_append,
      List.map_singleton, List.map_singleton, trimmed]
  rw [finish, start]

/-- Blanks around a text do not show in its trimmed fields. -/
theorem map_trim_fields_padded {separator : Char} (visible : isBlank separator = false)
    {before after : List Char} (blankBefore : ∀ c ∈ before, isBlank c)
    (blankAfter : ∀ c ∈ after, isBlank c) (text : List Char) :
    (fields separator (before ++ text ++ after)).map trim = (fields separator text).map trim := by
  have whole : ∀ {blanks : List Char}, (∀ c ∈ blanks, isBlank c) → separator ∉ blanks :=
    fun blank member => by simp [blank separator member] at visible
  exact map_trim_fields_spaced blankBefore blankAfter (whole blankBefore) (whole blankAfter) text

/-! ## The first separator -/

/-- A text is cut at the first separator. -/
theorem cutAtChar_eq_some {separator : Char} {text before after : List Char} :
    cutAtChar separator text = some (before, after) ↔
      separator ∉ before ∧ text = before ++ separator :: after := by
  rw [cutAtChar]
  constructor
  · intro found
    refine ⟨?_, by simpa using eq_append_of_cutAt found⟩
    induction text generalizing before with
    | nil => simp [cutAt] at found
    | cons c rest ih =>
      rw [cutAt] at found
      split at found
      next =>
        cases found
        exact List.not_mem_nil
      next closed =>
        obtain ⟨⟨earlier, later⟩, inner, same⟩ := Option.map_eq_some_iff.1 found
        cases same
        refine List.not_mem_cons_of_ne_of_not_mem ?_ (ih inner)
        rintro rfl
        simp [afterOpening] at closed
  · rintro ⟨absent, rfl⟩
    exact cutAt_append absent [] after

/-- Where the first separator of a text stands, is determined. -/
theorem eq_of_append_cons {separator : Char} {before after earlier later : List Char}
    (first : separator ∉ before) (again : separator ∉ earlier)
    (same : before ++ separator :: after = earlier ++ separator :: later) :
    before = earlier ∧ after = later := by
  have cut := cutAtChar_eq_some.2 ⟨first, same.symm⟩
  rw [cutAtChar_eq_some.2 ⟨again, rfl⟩] at cut
  cases cut
  exact ⟨rfl, rfl⟩

theorem cutAtChar_eq_none {separator : Char} {text : List Char} :
    cutAtChar separator text = none ↔ separator ∉ text := by
  rw [Option.eq_none_iff_forall_ne_some, Prod.forall]
  constructor
  · intro uncut member
    obtain ⟨before, after, rfl, absent⟩ := List.eq_append_cons_of_mem member
    exact uncut before after (cutAtChar_eq_some.2 ⟨absent, rfl⟩)
  · rintro absent before after found
    obtain ⟨-, rfl⟩ := cutAtChar_eq_some.1 found
    exact absent (by simp)

end InstrumentBench.Text
