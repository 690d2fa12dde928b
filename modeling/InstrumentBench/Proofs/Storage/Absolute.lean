import InstrumentBench.Proofs.Storage.Looking

/-!
# Absolute paths

The absolute form of a path has the names of the path, without single dots, behind those of the
directory that the path is seen from (`Path.seenFrom_absolute`).  So it leads to what the path led
to in that directory, whatever the current directory has become (`Disk.findsFrom_of_seenFrom`).
-/

namespace InstrumentBench

namespace Path

/-- What the absolute form of a path begins with: its own root, or the directory that it is seen
from. -/
def base (directory path : String) : String :=
  if isAbsolute path then rootSlashes path else directory

/-- The names of a path that lead on. -/
def names (path : String) : List String :=
  (pieces path).filter (· ≠ ".")

/-- Whether `seen` is how a path looks from the root, when it is seen from a directory. -/
structure SeenFrom (directory path seen : String) : Prop where
  rooted : isAbsolute seen = (isAbsolute path || isAbsolute directory)
  base : ∃ rest, seen = base directory path ++ rest
  pieces : pieces seen = Path.pieces (Path.base directory path) ++ names path
  /-- A slash at the end stays. -/
  slash : seen ≠ "" → endsInSlash path → endsInSlash seen
  /-- Without one, a path that leads on ends in a name. -/
  name : names path ≠ [] → endsInSlash path = false → endsInSlash seen = false

theorem isPiece_of_mem_names {path : String} : ∀ name ∈ names path, IsPiece name :=
  fun _ member => isPiece_of_mem_pieces (List.mem_of_mem_filter member)

theorem rootSlashes_eq (path : String) : rootSlashes path = "/" ∨ rootSlashes path = "//" := by
  rw [rootSlashes]
  split
  · exact .inr rfl
  · exact .inl rfl

theorem isAbsolute_rootSlashes (path : String) : isAbsolute (rootSlashes path) := by
  rcases rootSlashes_eq path with same | same <;> rw [same] <;> decide

theorem pieces_rootSlashes (path : String) : pieces (rootSlashes path) = [] := by
  rcases rootSlashes_eq path with same | same <;> rw [same] <;> decide

theorem pieces_base (directory path : String) :
    pieces (base directory path) = if isAbsolute path then [] else pieces directory := by
  rw [base]
  split
  · exact pieces_rootSlashes path
  · rfl

theorem isAbsolute_base (directory path : String) :
    isAbsolute (base directory path) = (isAbsolute path || isAbsolute directory) := by
  rw [base]
  cases absolute : isAbsolute path with
  | true => simp [isAbsolute_rootSlashes]
  | false => simp

/-! ## Joining names -/

section Join

variable {parts : List String} (isPiece : ∀ part ∈ parts, IsPiece part) (front : String)

include isPiece

theorem pieces_foldl_join : pieces (parts.foldl join front) = pieces front ++ parts := by
  induction parts generalizing front with
  | nil => simp
  | cons part rest ih =>
    obtain ⟨head, tail⟩ := List.forall_mem_cons.1 isPiece
    rw [List.foldl_cons, ih tail, head.pieces_join, List.append_assoc, List.singleton_append]

theorem isAbsolute_foldl_join : isAbsolute (parts.foldl join front) = isAbsolute front := by
  induction parts generalizing front with
  | nil => rfl
  | cons part rest ih =>
    obtain ⟨head, tail⟩ := List.forall_mem_cons.1 isPiece
    rw [List.foldl_cons, ih tail, isAbsolute_join head]

theorem exists_foldl_join : ∃ rest, parts.foldl join front = front ++ rest := by
  induction parts generalizing front with
  | nil => exact ⟨"", by simp⟩
  | cons part others ih =>
    obtain ⟨head, tail⟩ := List.forall_mem_cons.1 isPiece
    obtain ⟨rest, joined⟩ := ih tail (join front part)
    rw [List.foldl_cons, joined, join, head.not_isAbsolute, if_neg Bool.false_ne_true]
    split
    · exact ⟨part ++ rest, String.append_assoc⟩
    · exact ⟨"/" ++ part ++ rest, by simp only [String.append_assoc]⟩

theorem not_endsInSlash_foldl_join (some : parts ≠ []) :
    endsInSlash (parts.foldl join front) = false := by
  obtain ⟨others, last, rfl⟩ := (List.eq_nil_or_concat' parts).resolve_left some
  rw [List.foldl_append]
  exact (isPiece last (by simp)).not_endsInSlash_join _

end Join

/-- A path that is not empty gets a slash at its end, unless it has one. -/
theorem join_empty_cases (path : String) :
    join path "" = path ∧ (path = "" ∨ endsInSlash path) ∨
      path ≠ "" ∧ join path "" = path ++ "/" := by
  rw [join, show isAbsolute "" = false from by decide, if_neg Bool.false_ne_true]
  split
  next closed => exact .inl ⟨String.append_empty, closed⟩
  next other => exact .inr ⟨fun empty => other (.inl empty), String.append_empty⟩

/-! ## The absolute form -/

theorem names_eq_components (path : String) :
    (if isAbsolute path ∨ (components path).head? ≠ some "." then components path
      else (components path).tail) = names path := by
  have tidy := tidy_components path
  rw [names, ← filter_components]
  cases parts : components path with
  | nil => simp
  | cons first rest =>
    rw [parts] at tidy
    have later : rest.filter (· ≠ ".") = rest :=
      List.filter_eq_self.2 fun part member => by
        simpa using fun dot : part = "." => tidy.dotless (dot ▸ member)
    by_cases dot : first = "."
    case pos =>
      have relative : ¬isAbsolute path := fun absolute =>
        tidy.rooted absolute (dot ▸ List.mem_cons_self)
      rw [List.filter_cons_of_neg (by simpa using dot), later, if_neg (by simp [dot, relative]),
        List.tail_cons]
    case neg =>
      rw [List.filter_cons_of_pos (by simpa using dot), later, if_pos (by simp [dot])]

theorem absolute_eq {directory path : String} (nonempty : path ≠ "") :
    absolute directory path =
      if endsInSlash path then join ((names path).foldl join (base directory path)) ""
      else (names path).foldl join (base directory path) := by
  rw [absolute, if_neg nonempty, ← names_eq_components, base]

theorem seenFrom_absolute {directory path : String} (nonempty : path ≠ "") :
    SeenFrom directory path (absolute directory path) := by
  have pieces := pieces_foldl_join (@isPiece_of_mem_names path) (base directory path)
  have rooted := isAbsolute_foldl_join (@isPiece_of_mem_names path) (base directory path)
  obtain ⟨rest, start⟩ := exists_foldl_join (@isPiece_of_mem_names path) (base directory path)
  have ends := not_endsInSlash_foldl_join (@isPiece_of_mem_names path) (base directory path)
  rw [absolute_eq nonempty]
  generalize (names path).foldl join (base directory path) = whole at *
  rw [isAbsolute_base] at rooted
  cases slash : endsInSlash path with
  | false =>
    rw [if_neg Bool.false_ne_true]
    exact ⟨rooted, ⟨rest, start⟩, pieces, fun _ given => absurd (slash.symm.trans given) nofun,
      fun some _ => ends some⟩
  | true =>
    rw [if_pos rfl]
    rcases join_empty_cases whole with ⟨same, closed⟩ | ⟨some, closed⟩
    case inl =>
      rw [same]
      exact ⟨rooted, ⟨rest, start⟩, pieces, fun some _ => closed.resolve_left some,
        fun _ other => absurd (slash.symm.trans other) nofun⟩
    case inr =>
      refine ⟨?_, ⟨rest ++ "/", ?_⟩, ?_, fun _ _ => ?_,
        fun _ other => absurd (slash.symm.trans other) nofun⟩
      case refine_1 => rw [closed, isAbsolute_append some, rooted]
      case refine_2 => rw [closed, start, String.append_assoc]
      case refine_3 =>
        rw [closed, ← pieces, ← String.append_empty (s := whole ++ "/"), pieces_slash]
        exact List.append_nil _
      case refine_4 => rw [closed, endsInSlash_append (by decide)]; decide

end Path

/-! ## Where it leads -/

namespace Disk

variable {disk : Disk} {directory middle place : Place} {front names : List String}

/-- Whether `seen` finds from anywhere what a path finds in the directory `origin`, unless it is
too long. -/
def FindsFrom (origin path seen : String) : Prop :=
  ∀ (disk later : Disk) (place : Place) (node : Node),
    disk.find origin = .ok (disk.current, .directory) → disk.find path = .ok (place, node) →
    later.nodes = disk.nodes → seen.utf8ByteSize ≤ maxPath → later.find seen = .ok (place, node)

/-- Single dots lead nowhere. -/
theorem walk_filter (walked : disk.walk directory names = .ok place) :
    disk.walk directory (names.filter (· ≠ ".")) = .ok place := by
  fun_induction disk.walk directory names
  case case1 directory => exact walked
  case case2 directory name =>
    by_cases dot : name = "."
    case pos =>
      rw [below, if_pos dot] at walked
      rw [List.filter_cons_of_neg (by simpa using dot)]
      exact walked
    case neg =>
      rw [List.filter_cons_of_pos (by simpa using dot)]
      exact walked
  case case3 directory name next rest ih =>
    obtain ⟨middle, entry, stands, walked⟩ := walk_cons_eq_ok.1 walked
    have later := ih middle walked
    by_cases dot : name = "."
    case pos =>
      rw [below, if_pos dot] at entry
      cases entry
      rw [List.filter_cons_of_neg (by simpa using dot)]
      exact later
    case neg =>
      rw [List.filter_cons_of_pos (by simpa using dot)]
      cases others : (next :: rest).filter (· ≠ ".") with
      | nil =>
        rw [others] at later
        cases later
        exact entry
      | cons second more =>
        rw [others] at later
        exact walk_cons_eq_ok.2 ⟨middle, entry, stands, later⟩

/-- Names are followed from the directory that the names before them lead to. -/
theorem walk_append_of_directory (walked : disk.walk directory front = .ok middle)
    (stands : disk.node? middle = some .directory) (later : disk.walk middle names = .ok place) :
    disk.walk directory (front ++ names) = .ok place := by
  fun_induction disk.walk directory front
  case case1 directory =>
    cases walked
    exact later
  case case2 directory name =>
    cases names with
    | nil =>
      cases later
      exact walked
    | cons next rest => exact walk_cons_eq_ok.2 ⟨middle, walked, stands, later⟩
  case case3 directory name next rest ih =>
    obtain ⟨above, entry, opens, walked⟩ := walk_cons_eq_ok.1 walked
    exact walk_cons_eq_ok.2 ⟨above, entry, opens, ih above walked⟩

section Seen

variable {origin path seen : String} (seenFrom : Path.SeenFrom origin path seen)
  (absolute : Path.isAbsolute origin) (here : disk.find origin = .ok (disk.current, .directory))

include seenFrom here

/-- The text of the absolute form can be a path if those of its parts can. -/
theorem nul_not_mem_of_seenFrom (plain : '\x00' ∉ path.toList) : '\x00' ∉ seen.toList := by
  obtain ⟨-, herePlain, -⟩ := locate_eq_ok.1 (find_eq_ok.1 here).1
  have letter : '\x00' ≠ '/' := by decide
  intro nul
  obtain ⟨piece, among, member⟩ := (Path.mem_toList letter seen).1 nul
  rw [seenFrom.pieces, Path.pieces_base, List.mem_append] at among
  rcases among with front | name
  case inl =>
    split at front
    next => cases front
    next => exact herePlain ((Path.mem_toList letter origin).2 ⟨piece, front, member⟩)
  case inr =>
    exact plain ((Path.mem_toList letter path).2 ⟨piece, List.mem_of_mem_filter name, member⟩)

include absolute

/-- The names of the absolute form of a path lead from the root to where the path leads. -/
theorem walk_of_seenFrom (located : disk.locate path = .ok place) :
    disk.walk [] (Path.pieces seen) = .ok place := by
  obtain ⟨hereLocated, stands, -⟩ := find_eq_ok.1 here
  have hereWalked := walk_of_locate hereLocated
  have walked := walk_filter (walk_of_locate located)
  rw [if_pos absolute] at hereWalked
  rw [seenFrom.pieces, Path.pieces_base]
  cases rooted : Path.isAbsolute path with
  | true =>
    rw [rooted, if_pos rfl] at walked
    exact walked
  | false =>
    rw [rooted, if_neg Bool.false_ne_true] at walked
    exact walk_append_of_directory hereWalked stands walked

end Seen

/-- What is found at a path is found at its absolute form. -/
theorem findsFrom_of_seenFrom {origin path seen : String}
    (seenFrom : Path.SeenFrom origin path seen) (absolute : Path.isAbsolute origin) :
    FindsFrom origin path seen := by
  intro disk later place node here found nodes short
  obtain ⟨located, stands, slash⟩ := find_eq_ok.1 found
  obtain ⟨-, plain, -, walked⟩ := locate_eq_ok.1 located
  have rooted : Path.isAbsolute seen := by rw [seenFrom.rooted, absolute, Bool.or_true]
  have nonempty : seen ≠ "" := by
    rintro rfl
    exact absurd rooted (by decide)
  -- Where no name leads on, a directory is found, and a slash at the end does not matter.
  have leads : node ≠ .directory → Path.names path ≠ [] := by
    intro file none
    have start := walk_filter walked
    rw [show (Path.pieces path).filter (· ≠ ".") = [] from none] at start
    cases start
    refine file (Option.some.inj (stands.symm.trans ?_))
    split
    · rfl
    · exact (find_eq_ok.1 here).2.1
  refine find_eq_ok.2 ⟨locate_eq_ok.2 ⟨nonempty, ?_, short, ?_⟩, ?_, fun file => ?_⟩
  case refine_1 => exact nul_not_mem_of_seenFrom seenFrom here plain
  case refine_2 =>
    rw [if_pos rooted, walk_congr nodes]
    exact walk_of_seenFrom seenFrom absolute here located
  case refine_3 => rw [node?_congr nodes, stands]
  case refine_4 => exact seenFrom.name (leads file) (slash file)

end Disk

end InstrumentBench
