import InstrumentBench.Proofs.Text.Fields
import InstrumentBench.Storage.Path

/-!
# Pieces, components and siblings of a path

A path that does not end in a slash ends in a name, a dot or two (`exists_last_piece`).  The
components of a path, or some of the first of them, make a path with just these components
(`Tidy.components_ofComponents`).  The siblings of a path stand in one directory, under names that
differ in the suffix (`pieces_sibling`).
-/

namespace InstrumentBench.Path

open Text

/-- A text that can be the name of an entry in a directory. -/
def IsPiece (text : String) : Prop :=
  text ≠ "" ∧ '/' ∉ text.toList

theorem isPiece_of_mem_pieces {path piece : String} (member : piece ∈ pieces path) :
    IsPiece piece := by
  obtain ⟨field, visible⟩ := List.mem_filter.1 member
  obtain ⟨letters, cut, rfl⟩ := List.mem_map.1 field
  exact ⟨by simpa using visible, by simpa using not_mem_of_mem_fields cut⟩

/-- The pieces have all letters of a path but the slashes. -/
theorem mem_toList {c : Char} (other : c ≠ '/') (path : String) :
    c ∈ path.toList ↔ ∃ piece ∈ pieces path, c ∈ piece.toList := by
  rw [← joined_fields '/' path.toList, mem_joined_iff other]
  constructor
  · rintro ⟨letters, field, member⟩
    refine ⟨String.ofList letters, ?_, by simpa using member⟩
    refine List.mem_filter.2 ⟨List.mem_map_of_mem field, ?_⟩
    simpa using List.ne_nil_of_mem member
  · rintro ⟨piece, among, member⟩
    obtain ⟨letters, field, rfl⟩ := List.mem_map.1 (List.mem_of_mem_filter among)
    exact ⟨letters, field, by simpa using member⟩

theorem IsPiece.append {name suffix : String} (isPiece : IsPiece name)
    (whole : '/' ∉ suffix.toList) : IsPiece (name ++ suffix) :=
  ⟨by simp [isPiece.1], by simp [isPiece.2, whole]⟩

theorem IsPiece.pieces {name : String} (isPiece : IsPiece name) : pieces name = [name] := by
  simp [Path.pieces, fields_eq_singleton isPiece.2, isPiece.1]

theorem IsPiece.not_isAbsolute {name : String} (isPiece : IsPiece name) :
    isAbsolute name = false := by
  rw [isAbsolute, decide_eq_false_iff_not]
  exact fun first => isPiece.2 (List.mem_of_mem_head? first)

theorem IsPiece.pieces_after {name : String} (isPiece : IsPiece name) (path : String) :
    Path.pieces (path ++ "/" ++ name) = Path.pieces path ++ [name] := by
  simp [Path.pieces, fields_append_cons, fields_eq_singleton isPiece.2, isPiece.1]

theorem endsInSlash_append {path name : String} (nonempty : name ≠ "") :
    endsInSlash (path ++ name) = endsInSlash name := by
  have letters : name.toList ≠ [] := by simpa using nonempty
  rw [endsInSlash, endsInSlash, String.toList_append, List.getLast?_append_of_ne_nil _ letters]

theorem IsPiece.not_endsInSlash {name : String} (isPiece : IsPiece name) :
    endsInSlash name = false := by
  rw [endsInSlash, decide_eq_false_iff_not]
  exact fun last => isPiece.2 (List.mem_of_getLast? last)

/-- A path that ends in a slash is another path with a slash after it. -/
theorem exists_of_endsInSlash {path : String} (ends : endsInSlash path) :
    ∃ before, path = before ++ "/" := by
  obtain ⟨before, whole⟩ := List.getLast?_eq_some_iff.1 (of_decide_eq_true ends)
  exact ⟨String.ofList before, String.toList_inj.1 (by simpa using whole)⟩

/-- A name joined to a directory is the last piece. -/
theorem IsPiece.pieces_join {name : String} (isPiece : IsPiece name) (directory : String) :
    Path.pieces (join directory name) = Path.pieces directory ++ [name] := by
  rw [join, isPiece.not_isAbsolute]
  by_cases empty : directory = ""
  case pos => simp [empty, isPiece.pieces, show Path.pieces "" = [] from by decide]
  by_cases ends : endsInSlash directory
  case pos =>
    obtain ⟨before, rfl⟩ := exists_of_endsInSlash ends
    have same : Path.pieces (before ++ "/") = Path.pieces before := by
      have cut := fields_append_cons '/' before.toList []
      simp [Path.pieces, cut, fields]
    simp [ends, isPiece.pieces_after, same]
  case neg => simp [empty, ends, isPiece.pieces_after]

theorem IsPiece.not_endsInSlash_join {name : String} (isPiece : IsPiece name)
    (directory : String) : endsInSlash (join directory name) = false := by
  rw [join, isPiece.not_isAbsolute]
  split <;> try contradiction
  split <;> rw [endsInSlash_append isPiece.1, isPiece.not_endsInSlash]

theorem isAbsolute_append {path : String} (nonempty : path ≠ "") (rest : String) :
    isAbsolute (path ++ rest) = isAbsolute path := by
  have letters : path.toList ≠ [] := by simpa using nonempty
  rw [isAbsolute, isAbsolute, String.toList_append, List.head?_append_of_ne_nil _ letters]

theorem isAbsolute_join {directory name : String} (isPiece : IsPiece name) :
    isAbsolute (join directory name) = isAbsolute directory := by
  rw [join, isPiece.not_isAbsolute, if_neg Bool.false_ne_true]
  by_cases empty : directory = ""
  case pos => simp [empty, isPiece.not_isAbsolute, show isAbsolute "" = false from by decide]
  case neg => split <;> simp only [String.append_assoc, isAbsolute_append empty]

/-- A path that does not end in a slash has a last piece. -/
theorem exists_last_piece {path : String} (nonempty : path ≠ "") (ends : endsInSlash path = false) :
    ∃ front last, pieces path = front ++ [last] := by
  have letters : path.toList ≠ [] := by simpa using nonempty
  obtain ⟨start, c, whole⟩ := (List.eq_nil_or_concat' path.toList).resolve_left letters
  have absent : '/' ∉ [c] := by simpa [endsInSlash, whole, eq_comm] using ends
  obtain ⟨others, last, cut⟩ :=
    (List.eq_nil_or_concat' (fields '/' start)).resolve_left (fields_ne_nil _ _)
  have longer := fields_append_right absent cut
  refine ⟨(others.map String.ofList).filter (· ≠ ""), String.ofList (last ++ [c]), ?_⟩
  simp [pieces, whole, longer]

/-! ## Components put together -/

/-- A slash separates the pieces before it from those after it. -/
theorem pieces_slash (before after : String) :
    pieces (before ++ "/" ++ after) = pieces before ++ pieces after := by
  simp [pieces, fields_append_cons]

theorem pieces_intercalate {parts : List String} (isPiece : ∀ part ∈ parts, IsPiece part) :
    pieces ("/".intercalate parts) = parts := by
  induction parts with
  | nil => decide
  | cons first rest ih =>
    obtain ⟨head, tail⟩ := List.forall_mem_cons.1 isPiece
    cases rest with
    | nil => simpa using head.pieces
    | cons second more =>
      rw [String.intercalate_cons_cons, pieces_slash, head.pieces, ih tail, List.singleton_append]

theorem pieces_ofComponents (absolute : Bool) {parts : List String}
    (isPiece : ∀ part ∈ parts, IsPiece part) : pieces (ofComponents absolute parts) = parts := by
  cases absolute with
  | false => simpa [ofComponents] using pieces_intercalate isPiece
  | true =>
    have rooted : ofComponents true parts = "" ++ "/" ++ "/".intercalate parts := by
      simp [ofComponents]
    rw [rooted, pieces_slash, pieces_intercalate isPiece]
    rfl

theorem isAbsolute_ofComponents (absolute : Bool) {parts : List String}
    (isPiece : ∀ part ∈ parts, IsPiece part) :
    isAbsolute (ofComponents absolute parts) = absolute := by
  cases absolute with
  | true => simp [isAbsolute, ofComponents]
  | false =>
    cases parts with
    | nil => decide
    | cons first rest =>
      obtain ⟨head, -⟩ := List.forall_mem_cons.1 isPiece
      have letters : first.toList ≠ [] := by simpa using head.1
      have visible := head.not_isAbsolute
      cases rest with
      | nil => simpa [ofComponents] using visible
      | cons second more =>
        rw [isAbsolute, decide_eq_false_iff_not] at visible ⊢
        simpa [ofComponents, String.intercalate_cons_cons, List.head?_append_of_ne_nil _ letters]
          using visible

/-- Names that can be the components of a path: single dots count only at the start of a relative
path. -/
structure Tidy (absolute : Bool) (parts : List String) : Prop where
  isPiece : ∀ part ∈ parts, IsPiece part
  dotless : "." ∉ parts.tail
  rooted : absolute → "." ∉ parts

theorem tidy_components (path : String) : Tidy (isAbsolute path) (components path) := by
  have isPiece : ∀ piece ∈ pieces path, IsPiece piece := fun _ => isPiece_of_mem_pieces
  rw [components]
  cases cut : pieces path with
  | nil => exact ⟨by simp, by simp, by simp⟩
  | cons first rest =>
    rw [cut] at isPiece
    obtain ⟨head, tail⟩ := List.forall_mem_cons.1 isPiece
    have kept : ∀ part ∈ rest.filter (· ≠ "."), IsPiece part := fun part member =>
      tail part (List.mem_of_mem_filter member)
    have dotless : "." ∉ rest.filter (· ≠ ".") := by simp
    dsimp only
    split
    next => exact ⟨kept, fun member => dotless (List.mem_of_mem_tail member), fun _ => dotless⟩
    next other =>
      refine ⟨List.forall_mem_cons.2 ⟨head, kept⟩, dotless, ?_⟩
      intro absolute member
      cases List.mem_cons.1 member with
      | inl same => exact other ⟨same.symm, absolute⟩
      | inr later => exact dotless later

theorem Tidy.of_start {absolute : Bool} {parts front : List String} (tidy : Tidy absolute parts)
    (start : front <+: parts) : Tidy absolute front := by
  refine ⟨fun part member => tidy.isPiece part (start.mem member), ?_,
    fun isAbsolute member => tidy.rooted isAbsolute (start.mem member)⟩
  obtain ⟨rest, rfl⟩ := start
  cases front with
  | nil => simp
  | cons first others => exact fun member => tidy.dotless (List.mem_append_left rest member)

/-- Such names are the components of the path that is made of them. -/
theorem Tidy.components_ofComponents {absolute : Bool} {parts : List String}
    (tidy : Tidy absolute parts) : components (ofComponents absolute parts) = parts := by
  rw [components, pieces_ofComponents absolute tidy.isPiece]
  cases parts with
  | nil => rfl
  | cons first rest =>
    have kept : rest.filter (· ≠ ".") = rest := by
      rw [List.filter_eq_self]
      intro part member
      have other : part ≠ "." := by
        rintro rfl
        exact tidy.dotless member
      simpa using other
    have named : ¬(first = "." ∧ isAbsolute (ofComponents absolute (first :: rest))) := by
      rintro ⟨rfl, rooted⟩
      rw [isAbsolute_ofComponents absolute tidy.isPiece] at rooted
      exact tidy.rooted rooted List.mem_cons_self
    dsimp only
    rw [if_neg named, kept]

/-- Single dots apart, a path has its pieces as components. -/
theorem filter_components (path : String) :
    (components path).filter (· ≠ ".") = (pieces path).filter (· ≠ ".") := by
  rw [components]
  cases pieces path with
  | nil => rfl
  | cons first rest =>
    dsimp only
    split
    next dot => simp [dot.1]
    next => simp [List.filter_cons]

/-! ## Siblings -/

/-- The names that lead to the directory in which a path has its siblings. -/
def aboveSiblings (path : String) : List String :=
  if fileName? path = none then pieces path else (components path).dropLast

/-- What the names of the siblings of a path begin with. -/
def stem (path : String) : String :=
  (fileName? path).getD ""

theorem getLast?_of_fileName? {path name : String} (named : fileName? path = some name) :
    (components path).getLast? = some name :=
  (Option.filter_eq_some_iff.1 named).1

theorem sibling_of_fileName? {path name : String} (suffix : String)
    (named : fileName? path = some name) :
    sibling path suffix =
        join (ofComponents (isAbsolute path) (components path).dropLast) (name ++ suffix) ∧
      (∀ part ∈ (components path).dropLast, IsPiece part) ∧ IsPiece name := by
  have tidy := tidy_components path
  have last := List.mem_of_getLast? (getLast?_of_fileName? named)
  exact ⟨by rw [sibling, named],
    fun part member => tidy.isPiece part (List.dropLast_subset _ member), tidy.isPiece name last⟩

/-- The siblings of a path stand in one directory, under names that differ in the suffix. -/
theorem pieces_sibling (path : String) {suffix : String} (isPiece : IsPiece suffix) :
    pieces (sibling path suffix) = aboveSiblings path ++ [stem path ++ suffix] := by
  cases named : fileName? path with
  | none => simp [sibling, aboveSiblings, stem, named, isPiece.pieces_join]
  | some name =>
    obtain ⟨same, above, isName⟩ := sibling_of_fileName? suffix named
    have longer : IsPiece (name ++ suffix) := isName.append isPiece.2
    rw [same, longer.pieces_join, pieces_ofComponents _ above]
    simp [aboveSiblings, stem, named]

theorem endsInSlash_sibling (path : String) {suffix : String} (isPiece : IsPiece suffix) :
    endsInSlash (sibling path suffix) = false := by
  cases named : fileName? path with
  | none => simp [sibling, named, isPiece.not_endsInSlash_join]
  | some name =>
    obtain ⟨same, -, isName⟩ := sibling_of_fileName? suffix named
    rw [same, (isName.append isPiece.2).not_endsInSlash_join]

theorem isAbsolute_sibling (path : String) {suffix : String} (isPiece : IsPiece suffix) :
    isAbsolute (sibling path suffix) = isAbsolute path := by
  cases named : fileName? path with
  | none => simp [sibling, named, isAbsolute_join isPiece]
  | some name =>
    obtain ⟨same, above, isName⟩ := sibling_of_fileName? suffix named
    have longer : IsPiece (name ++ suffix) := isName.append isPiece.2
    rw [same, isAbsolute_join longer, isAbsolute_ofComponents _ above]

/-- A path whose last piece is a name ends in it. -/
theorem components_of_pieces {path name : String} {front : List String}
    (cut : pieces path = front ++ [name]) (dot : name ≠ ".") :
    ∃ above, components path = above ++ [name] := by
  rw [components, cut]
  cases front with
  | nil => exact ⟨[], by simp [dot]⟩
  | cons first rest =>
    have kept : (rest ++ [name]).filter (· ≠ ".") = rest.filter (· ≠ ".") ++ [name] := by
      simp [dot]
    dsimp only [List.cons_append]
    rw [kept]
    split
    · exact ⟨_, rfl⟩
    · exact ⟨first :: rest.filter (· ≠ "."), rfl⟩

theorem exists_fileName {path : String} (dots : endsInDots path = false) :
    ∃ name, fileName? path = some name := by
  rw [endsInDots] at dots
  cases last : (pieces path).getLast? with
  | none => simp [last] at dots
  | some name =>
    have proper : name ≠ "." ∧ name ≠ ".." := by simpa [last] using dots
    obtain ⟨front, cut⟩ := List.getLast?_eq_some_iff.1 last
    obtain ⟨above, parts⟩ := components_of_pieces cut proper.1
    exact ⟨name, by simp [fileName?, parts, proper]⟩

/-- A path that ends in two dots, or is a single dot, has no name at its end. -/
theorem fileName?_of_dots {path : String} {front : List String} {last : String}
    (cut : pieces path = front ++ [last]) (dots : last = ".." ∨ last = "." ∧ front = []) :
    fileName? path = none := by
  rcases dots with rfl | ⟨rfl, rfl⟩
  · obtain ⟨above, parts⟩ := components_of_pieces cut (by decide)
    simp [fileName?, parts]
  · rw [List.nil_append] at cut
    rw [fileName?, components, cut]
    dsimp only [List.filter_nil]
    split <;> rfl

end InstrumentBench.Path
