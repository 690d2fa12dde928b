/-!
# Cutting texts apart

Cells and script lines are cut at separators.  `fields` cuts at every
occurrence of a character, `cutAt` at the first occurrence of a text.
`joined_fields` says that nothing is lost: the fields with the separators put
back between them are the text.
-/

namespace InstrumentBench.Text

/-- The pieces between the occurrences of a separator.  There is always at
least one piece, and one more than there are separators. -/
def fields (separator : Char) : List Char → List (List Char)
  | [] => [[]]
  | c :: rest =>
    match fields separator rest with
    | [] => [[c]]
    | first :: others =>
      if c = separator then [] :: first :: others else (c :: first) :: others

/-- The pieces with the separator put between them. -/
def joined (separator : Char) : List (List Char) → List Char
  | [] => []
  | [last] => last
  | piece :: others => piece ++ separator :: joined separator others

/-- The text without the opening it starts with, if it does. -/
def afterOpening : (opening text : List Char) → Option (List Char)
  | [], text => some text
  | _ :: _, [] => none
  | o :: opening, c :: text => if o = c then afterOpening opening text else none

/-- What stands before and after the first occurrence of a pattern. -/
def cutAt (pattern : List Char) : List Char → Option (List Char × List Char)
  | [] => if pattern = [] then some ([], []) else none
  | c :: rest =>
    match afterOpening pattern (c :: rest) with
    | some after => some ([], after)
    | none => (cutAt pattern rest).map fun (before, after) => (c :: before, after)

/-- What stands before and after the first occurrence of a character. -/
def cutAtChar (separator : Char) (text : List Char) : Option (List Char × List Char) :=
  cutAt [separator] text

theorem fields_ne_nil (separator : Char) (text : List Char) : fields separator text ≠ [] := by
  cases text with
  | nil => simp [fields]
  | cons c rest =>
    rw [fields]
    split
    · simp
    · split <;> simp

/-- The fields with the separators put back are the text. -/
theorem joined_fields (separator : Char) (text : List Char) :
    joined separator (fields separator text) = text := by
  induction text with
  | nil => rfl
  | cons c rest ih =>
    rw [fields]
    split
    next empty => exact absurd empty (fields_ne_nil separator rest)
    next first others found =>
      rw [found] at ih
      by_cases same : c = separator
      · rw [if_pos same]
        simp [joined, ih, same]
      · rw [if_neg same]
        cases others with
        | nil => simpa [joined] using ih
        | cons next more => simpa [joined] using ih

theorem afterOpening_eq_some {opening text after : List Char} :
    afterOpening opening text = some after ↔ text = opening ++ after := by
  induction opening generalizing text with
  | nil => simp [afterOpening, eq_comm]
  | cons o opening ih =>
    cases text with
    | nil => simp [afterOpening]
    | cons c text =>
      by_cases same : o = c
      · simp [afterOpening, same, ih]
      · simp [afterOpening, same, Ne.symm same]

end InstrumentBench.Text
