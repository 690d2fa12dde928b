import InstrumentBench.Command.Template
import InstrumentBench.Proofs.Outcome
import Mathlib.Algebra.GroupWithZero.Nat

/-!
# Well-formed templates

The grammar of templates, apart from the scanner that reads them: stretches of text
without braces, and between them names in braces that are not blank.  `scan_eq_ok` says
that the scanner accepts exactly these texts and gives the segments of the grammar.
-/

namespace InstrumentBench

/-- A text in which no brace stands. -/
def Braceless (text : List Char) : Prop :=
  '\x7b' ∉ text ∧ '\x7d' ∉ text

theorem Braceless.cons {c : Char} {text : List Char} (opening : c ≠ '\x7b')
    (closing : c ≠ '\x7d') (braceless : Braceless text) : Braceless (c :: text) :=
  ⟨List.not_mem_cons_of_ne_of_not_mem (Ne.symm opening) braceless.1,
    List.not_mem_cons_of_ne_of_not_mem (Ne.symm closing) braceless.2⟩

theorem Braceless.nil : Braceless [] := ⟨List.not_mem_nil, List.not_mem_nil⟩

theorem Braceless.reverse {text : List Char} (braceless : Braceless text) :
    Braceless text.reverse :=
  ⟨by simpa using braceless.1, by simpa using braceless.2⟩

/-- The segments for a text between placeholders: one, or none if the text is empty. -/
def Segment.ofText (text : List Char) : List Segment :=
  if text = [] then [] else [.literal (String.ofList text)]

/-- The segment for a text between braces. -/
def Segment.ofName (inner : List Char) : Segment :=
  .placeholder (String.ofList (Text.trim inner))

namespace Template

/-- The well-formed templates and their segments. -/
inductive Spells : List Char → List Segment → Prop where
  | text {text : List Char} (braceless : Braceless text) : Spells text (Segment.ofText text)
  | placeholder {text inner rest : List Char} {segments : List Segment}
      (braceless : Braceless text) (inside : Braceless inner) (named : Text.trim inner ≠ [])
      (spelled : Spells rest segments) :
      Spells (text ++ '\x7b' :: (inner ++ '\x7d' :: rest))
        (Segment.ofText text ++ Segment.ofName inner :: segments)

theorem literalSegments_reverse (text : List Char) :
    literalSegments text.reverse = Segment.ofText text := by
  simp [literalSegments, Segment.ofText]

theorem mem_mentions {template : Template} {name : String} :
    name ∈ template.mentions ↔ .placeholder name ∈ template.segments := by
  rw [mentions, List.mem_filterMap]
  constructor
  · rintro ⟨segment, member, named⟩
    cases segment with
    | literal text => cases named
    | placeholder other =>
      cases named
      exact member
  · intro member
    exact ⟨_, member, rfl⟩

/-! ## The scanner accepts the well-formed templates -/

/-- The number of bytes of a text. -/
def bytes (text : List Char) : Nat :=
  (text.map Char.utf8Size).sum

theorem bytes_cons (c : Char) (text : List Char) : bytes (c :: text) = c.utf8Size + bytes text :=
  List.sum_cons

/-- The place after more text without braces. -/
def Place.after (text : List Char) : Place → Place
  | .literal readBack => .literal (text.reverse ++ readBack)
  | .placeholder openedAt readBack => .placeholder openedAt (text.reverse ++ readBack)

/-- A text without braces only moves the place. -/
theorem scan_append {text : List Char} (braceless : Braceless text) (offset : Nat)
    (place : Place) (rest : List Char) :
    scan offset place (text ++ rest) = scan (offset + bytes text) (place.after text) rest := by
  induction text generalizing offset place with
  | nil => cases place <;> rfl
  | cons c text ih =>
    obtain ⟨opening, notOpening⟩ := List.ne_and_not_mem_of_not_mem_cons braceless.1
    obtain ⟨closing, notClosing⟩ := List.ne_and_not_mem_of_not_mem_cons braceless.2
    have moved := ih ⟨notOpening, notClosing⟩ (offset + c.utf8Size)
    rw [List.cons_append, bytes_cons, ← Nat.add_assoc]
    cases place with
    | literal readBack =>
      rw [scan, if_neg (Ne.symm opening), if_neg (Ne.symm closing), moved]
      simp [Place.after]
    | placeholder openedAt readBack =>
      rw [scan, if_neg (Ne.symm opening), if_neg (Ne.symm closing), moved]
      simp [Place.after]

theorem scan_of_spells {text : List Char} {segments : List Segment}
    (spelled : Spells text segments) (offset : Nat) :
    scan offset (.literal []) text = .ok segments := by
  induction spelled generalizing offset with
  | @text text braceless =>
    have moved := scan_append braceless offset (.literal []) []
    rw [List.append_nil] at moved
    rw [moved, Place.after, List.append_nil, scan, literalSegments_reverse]
  | placeholder braceless inside named spelled ih =>
    rw [scan_append braceless, Place.after, List.append_nil, scan, if_pos rfl,
      scan_append inside, Place.after, List.append_nil, scan, if_neg (by decide), if_pos rfl,
      List.reverse_reverse, if_neg named, ih, literalSegments_reverse]
    rfl

/-! ## The scanner accepts nothing else -/

/-- What the scanner accepts at a place is well-formed together with what was read there:
from a place in a name on, the name is closed first. -/
theorem spells_of_scan {offset : Nat} {place : Place} {text : List Char}
    {segments : List Segment} (scanned : scan offset place text = .ok segments) :
    match place with
    | .literal readBack => Braceless readBack → Spells (readBack.reverse ++ text) segments
    | .placeholder _ readBack => Braceless readBack →
        ∃ inner rest others, readBack.reverse ++ text = inner ++ '\x7d' :: rest ∧
          Braceless inner ∧ Text.trim inner ≠ [] ∧ Spells rest others ∧
          segments = Segment.ofName inner :: others := by
  induction text generalizing offset place segments with
  | nil =>
    cases place with
    | literal readBack =>
      intro braceless
      rw [scan] at scanned
      cases scanned
      rw [List.append_nil, ← List.reverse_reverse readBack, literalSegments_reverse,
        List.reverse_reverse]
      exact .text braceless.reverse
    | placeholder => cases scanned
  | cons c text ih =>
    cases place with
    | literal readBack =>
      intro braceless
      rw [scan] at scanned
      split at scanned
      next opening =>
        subst opening
        obtain ⟨others, inName, same⟩ := Outcome.bind_eq_ok.1 scanned
        obtain rfl := Outcome.pure_eq_ok.1 same
        obtain ⟨inner, rest, later, closed, inside, named, spelled, rfl⟩ := ih inName .nil
        rw [List.reverse_nil, List.nil_append] at closed
        rw [closed, ← List.reverse_reverse readBack, literalSegments_reverse,
          List.reverse_reverse]
        exact .placeholder braceless.reverse inside named spelled
      next opening =>
        split at scanned
        next => cases scanned
        next closing =>
          have spelled := ih scanned (.cons opening closing braceless)
          rwa [List.reverse_cons, List.append_assoc] at spelled
    | placeholder openedAt readBack =>
      intro braceless
      rw [scan] at scanned
      split at scanned
      next => cases scanned
      next opening =>
        split at scanned
        next closing =>
          subst closing
          dsimp only at scanned
          split at scanned
          next => cases scanned
          next named =>
            obtain ⟨others, later, same⟩ := Outcome.bind_eq_ok.1 scanned
            obtain rfl := Outcome.pure_eq_ok.1 same
            exact ⟨readBack.reverse, text, others, rfl, braceless.reverse, named, ih later .nil,
              rfl⟩
        next closing =>
          have spelled := ih scanned (.cons opening closing braceless)
          rwa [List.reverse_cons, List.append_assoc] at spelled

/-- The scanner accepts exactly the well-formed templates. -/
theorem scan_eq_ok {offset : Nat} {text : List Char} {segments : List Segment} :
    scan offset (.literal []) text = .ok segments ↔ Spells text segments :=
  ⟨fun scanned => spells_of_scan scanned .nil, fun spelled => scan_of_spells spelled offset⟩

/-- A template has one sequence of segments. -/
theorem Spells.unique {text : List Char} {segments others : List Segment}
    (spelled : Spells text segments) (again : Spells text others) : segments = others :=
  Except.ok.inj ((scan_of_spells spelled 0).symm.trans (scan_of_spells again 0))

theorem read_eq_ok {source : String} {template : Template} :
    read source = .ok template ↔
      template.source = source ∧ Spells source.toList template.segments := by
  rw [read, Outcome.bind_eq_ok]
  constructor
  · rintro ⟨segments, scanned, same⟩
    obtain rfl := Outcome.pure_eq_ok.1 same
    exact ⟨rfl, scan_eq_ok.1 scanned⟩
  · rintro ⟨rfl, spelled⟩
    exact ⟨_, scan_eq_ok.2 spelled, rfl⟩

end Template

end InstrumentBench
