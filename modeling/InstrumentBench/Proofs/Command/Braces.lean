import InstrumentBench.Proofs.Command.Template
import InstrumentBench.Proofs.Text.Fields
import Mathlib.Data.List.Chain
import Mathlib.Data.List.Forall2

/-!
# The braces of a template

A template can be read exactly if its braces come in pairs and no pair encloses a blank text.
The template is then divided into its segments, and there is only one way to do so.  Otherwise
the first brace that is out of place is reported, with the number of bytes before it.

`read_wellBraced` puts the three parts together.  Its second half rests on `spells_or_flawed`:
whatever is not a template has a first flaw.
-/

namespace InstrumentBench

/-- Whether a character is a brace. -/
def isBrace (c : Char) : Bool := c = '\x7b' || c = '\x7d'

/-- Braces that come in pairs, an opening one first. -/
inductive Paired : List Char → Prop where
  | nil : Paired []
  | cons {rest : List Char} (paired : Paired rest) : Paired ('\x7b' :: '\x7d' :: rest)

/-- The braces of a text come in pairs, and no text between two of a pair is blank. -/
structure WellBraced (text : List Char) : Prop where
  paired : Paired (text.filter isBrace)
  visible : ∀ before inner after, text = before ++ '\x7b' :: (inner ++ '\x7d' :: after) →
    Braceless inner → ∃ c ∈ inner, ¬Text.isBlank c

theorem braceless_iff {text : List Char} : Braceless text ↔ ∀ c ∈ text, ¬isBrace c := by
  constructor
  · intro braceless c member
    simp only [isBrace, Bool.or_eq_true, decide_eq_true_eq]
    rintro (rfl | rfl)
    · exact braceless.1 member
    · exact braceless.2 member
  · intro absent
    exact ⟨fun member => absent _ member rfl, fun member => absent _ member rfl⟩

theorem Braceless.filter {text : List Char} (braceless : Braceless text) :
    text.filter isBrace = [] :=
  List.filter_eq_nil_iff.2 (braceless_iff.1 braceless)

theorem trim_ne_nil {text : List Char} :
    Text.trim text ≠ [] ↔ ∃ c ∈ text, ¬Text.isBlank c := by
  rw [Ne, Text.trim_eq_nil]
  push Not
  rfl

theorem braceless_of_blank {text : List Char} (blank : ∀ c ∈ text, Text.isBlank c) :
    Braceless text :=
  ⟨fun member => absurd (blank _ member) (by decide),
    fun member => absurd (blank _ member) (by decide)⟩

theorem Braceless.append {first second : List Char} (start : Braceless first)
    (finish : Braceless second) : Braceless (first ++ second) :=
  ⟨List.not_mem_append start.1 finish.1, List.not_mem_append start.2 finish.2⟩

theorem Braceless.trim {text : List Char} (braceless : Braceless text) :
    Braceless (Text.trim text) := by
  obtain ⟨before, after, -, -, whole⟩ := Text.exists_padding text
  rw [whole] at braceless
  exact ⟨fun member => braceless.1 (by simp [member]), fun member => braceless.2 (by simp [member])⟩

namespace Template

/-! ## Templates are well-braced -/

theorem Spells.wellBraced {text : List Char} {segments : List Segment}
    (spelled : Spells text segments) : WellBraced text := by
  induction spelled with
  | text braceless =>
    refine ⟨?_, fun before inner after whole _ => ?_⟩
    · rw [braceless.filter]
      exact .nil
    · exact absurd (by simp [whole]) braceless.1
  | @placeholder text inner rest segments braceless inside named _ ih =>
    constructor
    case paired =>
      have marks : (text ++ '\x7b' :: (inner ++ '\x7d' :: rest)).filter isBrace =
          '\x7b' :: '\x7d' :: rest.filter isBrace := by
        simp [braceless.filter, inside.filter, isBrace]
      rw [marks]
      exact .cons ih.paired
    case visible =>
      intro before other after whole braceless'
      by_cases earlier : '\x7b' ∈ before
      · -- the pair stands behind the first one
        obtain ⟨start, gap, rfl, first⟩ := List.eq_append_cons_of_mem earlier
        rw [List.append_assoc, List.cons_append] at whole
        obtain ⟨-, whole⟩ := Text.eq_of_append_cons braceless.1 first whole
        have closed : '\x7d' ∈ gap := by
          by_contra absent
          have again : inner ++ '\x7d' :: rest = (gap ++ '\x7b' :: other) ++ '\x7d' :: after := by
            simp [whole]
          obtain ⟨rfl, -⟩ := Text.eq_of_append_cons inside.2
            (by simp [absent, braceless'.2]) again
          exact inside.1 (by simp)
        obtain ⟨name, gap, rfl, first⟩ := List.eq_append_cons_of_mem closed
        rw [List.append_assoc, List.cons_append] at whole
        obtain ⟨-, whole⟩ := Text.eq_of_append_cons inside.2 first whole
        exact ih.visible gap other after whole braceless'
      · obtain ⟨-, whole⟩ := Text.eq_of_append_cons braceless.1 earlier whole
        obtain ⟨rfl, -⟩ := Text.eq_of_append_cons inside.2 braceless'.2 whole
        exact trim_ne_nil.1 named

theorem exists_spells_of_wellBraced {text : List Char} (wellBraced : WellBraced text) :
    ∃ segments, Spells text segments := by
  obtain ⟨paired, visible⟩ := wellBraced
  generalize marks : text.filter isBrace = braces at paired
  induction paired generalizing text with
  | nil =>
    exact ⟨_, .text (braceless_iff.2 (List.filter_eq_nil_iff.1 marks))⟩
  | cons _ ih =>
    obtain ⟨start, tail, rfl, absent, -, marks⟩ := List.filter_eq_cons_iff.1 marks
    obtain ⟨inner, rest, rfl, inside, -, marks⟩ := List.filter_eq_cons_iff.1 marks
    have named := visible start inner rest rfl (braceless_iff.2 inside)
    obtain ⟨segments, spelled⟩ := ih (fun before other after whole => by
      refine visible (start ++ '\x7b' :: (inner ++ '\x7d' :: before)) other after ?_
      simp [whole]) marks
    exact ⟨_, .placeholder (braceless_iff.2 absent) (braceless_iff.2 inside) (trim_ne_nil.2 named)
      spelled⟩

end Template

/-! ## The segments divide the template -/

namespace Segment

/-- A segment stands for a text: a literal for its own, a placeholder for its name in braces
with any blanks around it. -/
inductive Covers : Segment → List Char → Prop where
  | literal (text : String) : Covers (.literal text) text.toList
  | placeholder (name : String) {before after : List Char}
      (blankBefore : ∀ c ∈ before, Text.isBlank c) (blankAfter : ∀ c ∈ after, Text.isBlank c) :
      Covers (.placeholder name) ('\x7b' :: (before ++ name.toList ++ after ++ ['\x7d']))

/-- No brace stands in a segment, it is not empty, and a name has no blanks around it. -/
def Tidy : Segment → Prop
  | .literal text => text ≠ "" ∧ Braceless text.toList
  | .placeholder name => name ≠ "" ∧ Text.trimmed name = name ∧ Braceless name.toList

def isLiteral : Segment → Bool
  | .literal _ => true
  | .placeholder _ => false

/-- Segments divide a text: what they stand for makes up the text, each is tidy, and no literal
stands next to another. -/
structure Divide (segments : List Segment) (text : List Char) : Prop where
  covers : ∃ pieces, List.Forall₂ Covers segments pieces ∧ text = pieces.flatten
  tidy : ∀ segment ∈ segments, segment.Tidy
  apart : segments.IsChain fun first second => ¬(first.isLiteral ∧ second.isLiteral)

theorem covers_ofName (inner : List Char) :
    (ofName inner).Covers ('\x7b' :: (inner ++ ['\x7d'])) := by
  obtain ⟨before, after, blankBefore, blankAfter, whole⟩ := Text.exists_padding inner
  have covered := Covers.placeholder (String.ofList (Text.trim inner)) blankBefore blankAfter
  rw [String.toList_ofList, ← whole] at covered
  exact covered

theorem tidy_ofName {inner : List Char} (inside : Braceless inner)
    (named : Text.trim inner ≠ []) : (ofName inner).Tidy := by
  refine ⟨?_, ?_, ?_⟩
  · rwa [Ne, String.ofList_eq_empty_iff]
  · rw [Text.trimmed, String.toList_ofList, Text.trim_trim]
  · rw [String.toList_ofList]
    exact inside.trim

namespace Divide

variable {segments : List Segment} {text rest : List Char}

theorem nil : Divide [] [] :=
  ⟨⟨[], .nil, rfl⟩, List.forall_mem_nil _, .nil⟩

/-- A placeholder may be followed by anything. -/
theorem name_cons {inner : List Char} (inside : Braceless inner) (named : Text.trim inner ≠ [])
    (divided : Divide segments rest) :
    Divide (ofName inner :: segments) ('\x7b' :: (inner ++ '\x7d' :: rest)) := by
  obtain ⟨⟨pieces, covered, rfl⟩, tidy, apart⟩ := divided
  refine ⟨⟨_, .cons (covers_ofName inner) covered, by simp⟩,
    List.forall_mem_cons.2 ⟨tidy_ofName inside named, tidy⟩, ?_⟩
  refine List.isChain_cons.2 ⟨fun _ _ both => ?_, apart⟩
  exact Bool.false_ne_true both.1

/-- A text without braces may be followed by anything but a literal. -/
theorem text_append (braceless : Braceless text) (divided : Divide segments rest)
    (next : ∀ segment ∈ segments.head?, ¬segment.isLiteral) :
    Divide (ofText text ++ segments) (text ++ rest) := by
  rw [ofText]
  split
  next empty =>
    rw [empty]
    exact divided
  next some =>
    obtain ⟨⟨pieces, covered, rfl⟩, tidy, apart⟩ := divided
    have literal := Covers.literal (String.ofList text)
    rw [String.toList_ofList] at literal
    refine ⟨⟨_, .cons literal covered, by simp⟩, List.forall_mem_cons.2 ⟨⟨?_, ?_⟩, tidy⟩, ?_⟩
    · rwa [Ne, String.ofList_eq_empty_iff]
    · rwa [String.toList_ofList]
    · exact List.isChain_cons.2 ⟨fun segment first both => next segment first both.2, apart⟩

end Divide

end Segment

namespace Template

open Segment

theorem Spells.divide {text : List Char} {segments : List Segment}
    (spelled : Spells text segments) : Divide segments text := by
  induction spelled with
  | text braceless =>
    have divided := Divide.nil.text_append braceless (by simp)
    rwa [List.append_nil, List.append_nil] at divided
  | placeholder braceless inside named _ ih =>
    refine (ih.name_cons inside named).text_append braceless fun segment first => ?_
    cases first
    exact Bool.false_ne_true

/-- A literal can be put before segments that do not begin with one. -/
theorem Spells.literal {text rest : List Char} {segments : List Segment}
    (spelled : Spells rest segments) (next : ∀ segment ∈ segments.head?, ¬segment.isLiteral)
    (braceless : Braceless text) : Spells (text ++ rest) (ofText text ++ segments) := by
  have empty : ∀ {first : List Char} {others : List Segment},
      (∀ segment ∈ (ofText first ++ others).head?, ¬segment.isLiteral) → first = [] := by
    intro first others next
    by_contra some
    rw [ofText, if_neg some] at next
    exact next _ rfl rfl
  cases spelled with
  | text =>
    rw [← List.append_nil (ofText _)] at next
    obtain rfl := empty next
    have alone : ofText ([] : List Char) = [] := rfl
    rw [alone, List.append_nil, List.append_nil]
    exact .text braceless
  | placeholder _ inside named spelled =>
    obtain rfl := empty next
    exact .placeholder braceless inside named spelled

theorem spells_of_divide {text : List Char} {segments : List Segment}
    (divided : Divide segments text) : Spells text segments := by
  obtain ⟨⟨pieces, covered, rfl⟩, tidy, apart⟩ := divided
  induction covered with
  | nil => exact .text .nil
  | @cons segment piece segments pieces head covered ih =>
    obtain ⟨tidyHead, tidy⟩ := List.forall_mem_cons.1 tidy
    obtain ⟨next, apart⟩ := List.isChain_cons.1 apart
    have spelled := ih tidy apart
    rw [List.flatten_cons]
    cases head with
    | literal text =>
      obtain ⟨some, braceless⟩ := tidyHead
      have written := spelled.literal (fun segment first both => next segment first ⟨rfl, both⟩)
        braceless
      rwa [ofText, if_neg (by simpa using some), String.ofList_toList] at written
    | placeholder name blankBefore blankAfter =>
      obtain ⟨some, tight, braceless⟩ := tidyHead
      have trimmed : Text.trim name.toList = name.toList := by
        rw [← Text.toList_trimmed, tight]
      have inner := Text.trim_padded blankBefore blankAfter name.toList
      rw [trimmed] at inner
      have inside := ((braceless_of_blank blankBefore).append braceless).append
        (braceless_of_blank blankAfter)
      have written := Spells.placeholder .nil inside
        (by rw [inner]; simpa using some) spelled
      rw [ofName, inner, String.ofList_toList] at written
      simpa [ofText] using written

/-! ## The first flaw -/

/-- The first flaw of a text: what stands before the braces it is about is a template of its
own, and the offsets are the numbers of bytes before a brace. -/
inductive FirstFlaw : List Char → Flaw → Prop where
  | nested {before inner after : List Char} (closed : WellBraced before)
      (inside : Braceless inner) :
      FirstFlaw (before ++ '\x7b' :: (inner ++ '\x7b' :: after))
        ⟨(String.ofList (before ++ '\x7b' :: inner)).utf8ByteSize,
          .nested (String.ofList before).utf8ByteSize⟩
  | unmatched {before after : List Char} (closed : WellBraced before) :
      FirstFlaw (before ++ '\x7d' :: after) ⟨(String.ofList before).utf8ByteSize, .unmatched⟩
  | emptyPlaceholder {before inner after : List Char} (closed : WellBraced before)
      (blank : ∀ c ∈ inner, Text.isBlank c) :
      FirstFlaw (before ++ '\x7b' :: (inner ++ '\x7d' :: after))
        ⟨(String.ofList before).utf8ByteSize, .emptyPlaceholder⟩
  | unclosed {before inner : List Char} (closed : WellBraced before) (inside : Braceless inner) :
      FirstFlaw (before ++ '\x7b' :: inner) ⟨(String.ofList before).utf8ByteSize, .unclosed⟩

theorem bytes_eq (text : List Char) : bytes text = (String.ofList text).utf8ByteSize := by
  induction text with
  | nil => rfl
  | cons c text ih =>
    rw [bytes_cons, ih, String.ofList_cons, String.utf8ByteSize_append,
      String.utf8ByteSize_singleton]

theorem bytes_append (first second : List Char) :
    bytes (first ++ second) = bytes first + bytes second := by
  rw [bytes, List.map_append, List.sum_append, bytes, bytes]

/-- A flaw behind a template is found there. -/
theorem Spells.exists_scan_append {text : List Char} {segments : List Segment}
    (spelled : Spells text segments) :
    ∃ readBack, ∀ offset rest flaw,
      scan (offset + bytes text) (.literal readBack) rest = .error flaw →
        scan offset (.literal []) (text ++ rest) = .error flaw := by
  induction spelled with
  | @text text braceless =>
    refine ⟨text.reverse, fun offset rest flaw failed => ?_⟩
    rw [scan_append braceless, Place.after, List.append_nil]
    exact failed
  | @placeholder text inner tail segments braceless inside named _ ih =>
    obtain ⟨readBack, later⟩ := ih
    refine ⟨readBack, fun offset rest flaw failed => ?_⟩
    rw [bytes_append, bytes_cons, bytes_append, bytes_cons] at failed
    have behind := later (offset + bytes text + 1 + bytes inner + 1) rest flaw (by
      rw [← failed]
      congr 1
      have opening : Char.utf8Size '\x7b' = 1 := rfl
      have closing : Char.utf8Size '\x7d' = 1 := rfl
      omega)
    rw [List.append_assoc, List.cons_append, List.append_assoc, List.cons_append,
      scan_append braceless, Place.after, List.append_nil, scan, if_pos rfl, scan_append inside,
      Place.after, List.append_nil, scan, if_neg (by decide), if_pos rfl, List.reverse_reverse,
      if_neg named, behind]
    rfl

theorem exists_scan_append_of_wellBraced {text : List Char} (closed : WellBraced text) :
    ∃ readBack, ∀ rest flaw, scan (bytes text) (.literal readBack) rest = .error flaw →
      scan 0 (.literal []) (text ++ rest) = .error flaw := by
  obtain ⟨segments, spelled⟩ := exists_spells_of_wellBraced closed
  obtain ⟨readBack, later⟩ := spelled.exists_scan_append
  refine ⟨readBack, fun rest flaw failed => later 0 rest flaw ?_⟩
  rwa [Nat.zero_add]

theorem scan_of_firstFlaw {text : List Char} {flaw : Flaw} (first : FirstFlaw text flaw) :
    scan 0 (.literal []) text = .error flaw := by
  cases first with
  | nested closed inside =>
    obtain ⟨readBack, later⟩ := exists_scan_append_of_wellBraced closed
    have opening : Char.utf8Size '\x7b' = 1 := rfl
    refine later _ _ ?_
    rw [scan, if_pos rfl, scan_append inside, Place.after, scan, if_pos rfl,
      ← bytes_eq, ← bytes_eq, bytes_append, bytes_cons, opening, Nat.add_assoc]
    rfl
  | unmatched closed =>
    obtain ⟨readBack, later⟩ := exists_scan_append_of_wellBraced closed
    refine later _ _ ?_
    rw [scan, if_neg (by decide), if_pos rfl, ← bytes_eq]
  | emptyPlaceholder closed blank =>
    obtain ⟨readBack, later⟩ := exists_scan_append_of_wellBraced closed
    refine later _ _ ?_
    rw [scan, if_pos rfl, scan_append (braceless_of_blank blank), Place.after,
      scan, if_neg (by decide), if_pos rfl, List.append_nil, List.reverse_reverse,
      if_pos (Text.trim_eq_nil.2 blank), ← bytes_eq]
    rfl
  | @unclosed before inner closed inside =>
    obtain ⟨readBack, later⟩ := exists_scan_append_of_wellBraced closed
    have opened := scan_append inside (bytes before + 1) (.placeholder (bytes before) []) []
    rw [List.append_nil] at opened
    refine later _ _ ?_
    rw [scan, if_pos rfl, opened, Place.after, scan, ← bytes_eq]
    rfl

/-- A text has no brace, or a first one. -/
theorem braceless_or_cut (text : List Char) :
    Braceless text ∨ ∃ before after, Braceless before ∧
      (text = before ++ '\x7b' :: after ∨ text = before ++ '\x7d' :: after) := by
  cases marks : text.filter isBrace with
  | nil => exact .inl (braceless_iff.2 (List.filter_eq_nil_iff.1 marks))
  | cons c others =>
    obtain ⟨before, after, rfl, absent, brace, -⟩ := List.filter_eq_cons_iff.1 marks
    simp only [isBrace, Bool.or_eq_true, decide_eq_true_eq] at brace
    refine .inr ⟨before, after, braceless_iff.2 absent, ?_⟩
    rcases brace with rfl | rfl
    · exact .inl rfl
    · exact .inr rfl

/-- A flaw behind a placeholder is the first one. -/
theorem FirstFlaw.exists_behind {text inner rest : List Char} {flaw : Flaw}
    (first : FirstFlaw rest flaw) (braceless : Braceless text) (inside : Braceless inner)
    (named : Text.trim inner ≠ []) :
    ∃ flaw, FirstFlaw (text ++ '\x7b' :: (inner ++ '\x7d' :: rest)) flaw := by
  have longer : ∀ {before : List Char}, WellBraced before →
      WellBraced (text ++ '\x7b' :: (inner ++ '\x7d' :: before)) := by
    intro before closed
    obtain ⟨segments, spelled⟩ := exists_spells_of_wellBraced closed
    exact (Spells.placeholder braceless inside named spelled).wellBraced
  have shape : ∀ before after : List Char, text ++ '\x7b' :: (inner ++ '\x7d' :: (before ++ after)) =
      text ++ '\x7b' :: (inner ++ '\x7d' :: before) ++ after := by simp
  cases first with
  | nested closed within =>
    rw [shape]
    exact ⟨_, .nested (longer closed) within⟩
  | unmatched closed =>
    rw [shape]
    exact ⟨_, .unmatched (longer closed)⟩
  | emptyPlaceholder closed blank =>
    rw [shape]
    exact ⟨_, .emptyPlaceholder (longer closed) blank⟩
  | unclosed closed within =>
    rw [shape]
    exact ⟨_, .unclosed (longer closed) within⟩

/-- Whatever is not a template has a first flaw. -/
theorem spells_or_flawed (text : List Char) :
    (∃ segments, Spells text segments) ∨ ∃ flaw, FirstFlaw text flaw := by
  induction length : text.length using Nat.strong_induction_on generalizing text with
  | _ count ih =>
    have bare : ∀ {start : List Char}, Braceless start → WellBraced start := fun braceless =>
      (Spells.text braceless).wellBraced
    rcases braceless_or_cut text with braceless | ⟨start, tail, braceless, rfl | rfl⟩
    · exact .inl ⟨_, .text braceless⟩
    · rcases braceless_or_cut tail with inside | ⟨inner, rest, inside, rfl | rfl⟩
      · exact .inr ⟨_, .unclosed (bare braceless) inside⟩
      · exact .inr ⟨_, .nested (bare braceless) inside⟩
      · by_cases blank : ∀ c ∈ inner, Text.isBlank c
        · exact .inr ⟨_, .emptyPlaceholder (bare braceless) blank⟩
        · have named : Text.trim inner ≠ [] := fun none => blank (Text.trim_eq_nil.1 none)
          have shorter : rest.length < count := by
            simp at length
            omega
          rcases ih rest.length shorter rest rfl with ⟨segments, spelled⟩ | ⟨flaw, first⟩
          · exact .inl ⟨_, .placeholder braceless inside named spelled⟩
          · exact .inr (first.exists_behind braceless inside named)
    · exact .inr ⟨_, .unmatched (bare braceless)⟩

theorem read_eq_error {source : String} {flaw : Flaw} :
    read source = .error flaw ↔ FirstFlaw source.toList flaw := by
  have scanned : read source = .error flaw ↔
      scan 0 (.literal []) source.toList = .error flaw := by
    rw [read, Outcome.bind_eq_error]
    refine or_iff_left ?_
    rintro ⟨segments, -, same⟩
    cases same
  rw [scanned]
  constructor
  · intro failed
    rcases spells_or_flawed source.toList with ⟨segments, spelled⟩ | ⟨other, first⟩
    · rw [scan_of_spells spelled] at failed
      cases failed
    · rw [scan_of_firstFlaw first] at failed
      cases failed
      exact first
  · exact scan_of_firstFlaw

/-- A template can be read exactly if its braces come in pairs with no blank text between them.
What is read is the source with the segments that divide it.  What cannot be read is refused
for its first flaw. -/
theorem read_wellBraced (source : String) :
    ((∃ template, read source = .ok template) ↔ WellBraced source.toList) ∧
    (∀ template, read source = .ok template ↔
      template.source = source ∧ Divide template.segments source.toList) ∧
    ∀ flaw, read source = .error flaw ↔ FirstFlaw source.toList flaw := by
  refine ⟨⟨?accepted, ?wellBraced⟩, fun template => ?segments, fun flaw => read_eq_error⟩
  case accepted =>
    intro ⟨template, found⟩
    exact (read_eq_ok.1 found).2.wellBraced
  case wellBraced =>
    intro wellBraced
    obtain ⟨segments, spelled⟩ := exists_spells_of_wellBraced wellBraced
    exact ⟨⟨source, segments⟩, read_eq_ok.2 ⟨rfl, spelled⟩⟩
  case segments =>
    rw [read_eq_ok]
    exact and_congr_right fun _ => ⟨Spells.divide, spells_of_divide⟩

-- the micro sign takes two bytes, and the last brace is never met
example : read "µ\x7b \x7d\x7d" = .error ⟨2, .emptyPlaceholder⟩ := by decide

end Template

end InstrumentBench
