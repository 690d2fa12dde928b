import InstrumentBench.Text.Lowercase.Table

/-!
# Lower-casing

Model names, nicknames, identities, headers and command names are compared
without regard to case by comparing their lower-case forms.  The mapping is
the full one of the Unicode standard: a dotted capital I becomes an i and a
dot above, and a capital sigma takes its final form at the end of a word.
-/

namespace InstrumentBench.Text

/-- The lower-case form of the code point if it is one of the run's capitals. -/
def CaseRun.lowercase? (run : CaseRun) (code : Nat) : Option Nat :=
  if run.first ≤ code ∧ code ≤ run.last ∧ (code - run.first) % run.step = 0 then
    some (run.image + (code - run.first))
  else
    none

/-- The lower-case form of one character, wherever it stands. -/
def lowerChar (c : Char) : List Char :=
  if c.toNat < 0x80 then
    [c.toLower]
  else if c.toNat = 0x130 then
    ['i', Char.ofNat 0x307]
  else
    match lowercaseRuns.findSome? (·.lowercase? c.toNat) with
    | some code => [Char.ofNat code]
    | none => [c]

/-- Whether the character is a letter that has a case. -/
def isCased (c : Char) : Bool :=
  casedSet.contains c.toNat

/-- Whether the character is one that words run across. -/
def isCaseIgnorable (c : Char) : Bool :=
  caseIgnorableSet.contains c.toNat

/-- Whether the first character that counts is a cased letter. -/
def startsCased (text : List Char) : Bool :=
  match text.dropWhile isCaseIgnorable with
  | [] => false
  | c :: _ => isCased c

/-- A capital sigma ends a word if a cased letter stands before it and none
after it; `before` is what precedes it, nearest first. -/
def endsWord (before after : List Char) : Bool :=
  startsCased before && !startsCased after

/-- Lower-cases a text that stands after `before`, given nearest first. -/
def lowerFrom (before : List Char) : List Char → List Char
  | [] => []
  | c :: rest =>
    let image :=
      if c = 'Σ' then [if endsWord before rest then 'ς' else 'σ'] else lowerChar c
    image ++ lowerFrom (c :: before) rest

/-- The lower-case form of a text. -/
def lower (text : List Char) : List Char :=
  lowerFrom [] text

/-- The lower-case form of a string. -/
def lowercased (text : String) : String :=
  String.ofList (lower text.toList)

@[simp] theorem lower_nil : lower [] = [] := rfl

theorem lowerChar_ne_nil (c : Char) : lowerChar c ≠ [] := by
  rw [lowerChar]
  split
  · simp
  · split
    · simp
    · split <;> simp

/-- No character is lower-cased away. -/
theorem lowercased_eq_empty {text : String} : lowercased text = "" ↔ text = "" := by
  rw [lowercased, String.ofList_eq_empty_iff, ← String.toList_eq_nil_iff]
  cases text.toList with
  | nil => simp
  | cons c rest =>
    rw [lower, lowerFrom]
    by_cases sigma : c = 'Σ'
    · simp [sigma]
    · simp [sigma, lowerChar_ne_nil]

end InstrumentBench.Text
