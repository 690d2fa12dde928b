import InstrumentBench.Proofs.Storage.Disk
import InstrumentBench.Proofs.Storage.Path

/-!
# Where a path leads

Where a path leads depends on the directories of a disk only (`locate_of_keepsDirectories`): the
first names on the way lead to directories (`walk_append`), in which the next are looked up.
-/

namespace InstrumentBench.Disk

/-! ## Directories decide -/

/-- A later disk has every directory that an earlier one had. -/
structure KeepsDirectories (before after : Disk) : Prop where
  current : after.current = before.current
  kept : ∀ place, before.node? place = some .directory → after.node? place = some .directory

theorem KeepsDirectories.trans {first second third : Disk}
    (left : first.KeepsDirectories second) (right : second.KeepsDirectories third) :
    first.KeepsDirectories third :=
  ⟨right.current.trans left.current, fun place stands => right.kept place (left.kept place stands)⟩

/-- More names are followed from a directory. -/
theorem walk_cons_eq_ok {disk : Disk} {directory place : Place} {name next : String}
    {rest : List String} :
    disk.walk directory (name :: next :: rest) = .ok place ↔
      ∃ middle, below directory name = .ok middle ∧ disk.node? middle = some .directory ∧
        disk.walk middle (next :: rest) = .ok place := by
  rw [walk, Outcome.bind_eq_ok]
  refine exists_congr fun middle => and_congr_right fun _ => ?_
  rcases disk.node? middle with _ | ⟨_ | _⟩ <;> simp

theorem walk_of_keepsDirectories {before after : Disk} (keeps : before.KeepsDirectories after)
    {names : List String} {directory place : Place}
    (found : before.walk directory names = .ok place) : after.walk directory names = .ok place := by
  fun_induction before.walk directory names
  case case1 directory => exact found
  case case2 directory name => exact found
  case case3 directory name next rest ih =>
    obtain ⟨middle, below, stands, found⟩ := walk_cons_eq_ok.1 found
    exact walk_cons_eq_ok.2 ⟨middle, below, keeps.kept middle stands, ih middle found⟩

/-- A path names a place if its text can be one and its names can be followed. -/
theorem locate_eq_ok {disk : Disk} {path : String} {place : Place} :
    disk.locate path = .ok place ↔
      path ≠ "" ∧ '\x00' ∉ path.toList ∧ path.utf8ByteSize ≤ maxPath ∧
        disk.walk (if Path.isAbsolute path then [] else disk.current) (Path.pieces path) =
          .ok place := by
  unfold locate
  split
  next empty => simp [empty]
  next some =>
    split
    next nul => simp [nul]
    next plain =>
      split
      next long => simp [Nat.not_le.2 long]
      next short => simp [some, plain, Nat.le_of_not_lt short]

/-- A path still names the same place where all directories are kept. -/
theorem locate_of_keepsDirectories {before after : Disk} (keeps : before.KeepsDirectories after)
    {path : String} {place : Place} (found : before.locate path = .ok place) :
    after.locate path = .ok place := by
  obtain ⟨some, plain, short, walked⟩ := locate_eq_ok.1 found
  rw [← keeps.current] at walked
  exact locate_eq_ok.2 ⟨some, plain, short, walk_of_keepsDirectories keeps walked⟩

theorem Grows.keepsDirectories {before after : Disk} (grows : before.Grows after)
    (current : after.current = before.current) : before.KeepsDirectories after := by
  refine ⟨current, fun place stands => ?_⟩
  rcases grows place with same | ⟨absent, -⟩
  · rw [same, stands]
  · rw [absent] at stands
    cases stands

/-! ## Reading -/

theorem find_eq_ok {disk : Disk} {path : String} {place : Place} {node : Node} :
    disk.find path = .ok (place, node) ↔
      disk.locate path = .ok place ∧ disk.node? place = some node ∧
        (node ≠ .directory → Path.endsInSlash path = false) := by
  rw [find, Outcome.bind_eq_ok]
  constructor
  · rintro ⟨other, located, found⟩
    cases standing : disk.node? other with
    | none => simp [standing] at found
    | some kind =>
      rw [standing] at found
      cases kind with
      | file contents =>
        dsimp only at found
        split at found
        next => cases found
        next slash =>
          cases found
          exact ⟨located, standing, fun _ => by simpa using slash⟩
      | directory =>
        cases found
        exact ⟨located, standing, fun other => absurd rfl other⟩
  · rintro ⟨located, standing, slash⟩
    refine ⟨place, located, ?_⟩
    rw [standing]
    cases node with
    | file contents => exact if_neg (by simp [slash nofun])
    | directory => rfl

/-- A file is read where a path that does not end in a slash leads to it. -/
theorem read_eq_ok {disk : Disk} {path : String} {contents : ByteArray} :
    disk.read path = .ok contents ↔
      Path.endsInSlash path = false ∧
        ∃ place, disk.locate path = .ok place ∧ disk.node? place = some (.file contents) := by
  rw [read, find]
  cases found : disk.locate path with
  | error error => simp [bind, Except.bind]
  | ok place =>
    rcases standing : disk.node? place with _ | ⟨_ | _⟩
    case none => simp [bind, Except.bind, standing]
    case some.directory => simp [bind, Except.bind, standing]
    case some.file other => cases Path.endsInSlash path <;> simp [bind, Except.bind, standing]

theorem find_of_file {disk : Disk} {path : String} {place : Place} {contents : ByteArray}
    (ends : Path.endsInSlash path = false) (located : disk.locate path = .ok place)
    (stands : disk.node? place = some (.file contents)) :
    disk.find path = .ok (place, .file contents) :=
  find_eq_ok.2 ⟨located, stands, fun _ => ends⟩

theorem read_of_absent {disk : Disk} {path : String} {place : Place}
    (found : disk.locate path = .ok place) (absent : disk.node? place = none) :
    disk.read path = .error .notFound := by
  simp [read, find, found, absent, bind, Except.bind]

theorem ne_empty_of_locate {disk : Disk} {path : String} {place : Place}
    (found : disk.locate path = .ok place) : path ≠ "" := by
  rintro rfl
  cases found

theorem walk_of_locate {disk : Disk} {path : String} {place : Place}
    (found : disk.locate path = .ok place) :
    disk.walk (if Path.isAbsolute path then [] else disk.current) (Path.pieces path) =
      .ok place :=
  (locate_eq_ok.1 found).2.2.2

/-! ## The way -/

theorem below_of_name {directory place : Place} {name : String} (dot : name ≠ ".")
    (dots : name ≠ "..") (found : below directory name = .ok place) :
    place = directory ++ [name] := by
  rw [below, if_neg dot, if_neg dots] at found
  split at found <;> cases found
  rfl

/-- The later names are followed from a directory that those before them lead to. -/
theorem walk_append {disk : Disk} {directory place : Place} {front rest : List String}
    (nonempty : front ≠ []) (more : rest ≠ [])
    (found : disk.walk directory (front ++ rest) = .ok place) :
    ∃ above, disk.walk directory front = .ok above ∧ disk.node? above = some .directory ∧
      disk.walk above rest = .ok place := by
  obtain ⟨last, others, rfl⟩ := List.exists_cons_of_ne_nil more
  fun_induction disk.walk directory front
  case case1 directory => contradiction
  case case2 directory first => exact walk_cons_eq_ok.1 found
  case case3 directory first next front ih =>
    obtain ⟨middle, below, stands, found⟩ := walk_cons_eq_ok.1 found
    obtain ⟨above, walked, rest⟩ := ih middle (List.cons_ne_nil next front) found
    exact ⟨above, Outcome.bind_eq_ok.2 ⟨middle, below, by rw [stands, walked]⟩, rest⟩

/-- What is joined to the path of something stands in it, which is a directory. -/
theorem locate_join {disk : Disk} {path name : String} {place inner : Place}
    (isPiece : Path.IsPiece name) (nonempty : Path.pieces path ≠ [])
    (located : disk.locate path = .ok place)
    (found : disk.locate (Path.join path name) = .ok inner) :
    disk.node? place = some .directory ∧ below place name = .ok inner := by
  have walked := walk_of_locate found
  rw [isPiece.pieces_join, Path.isAbsolute_join isPiece] at walked
  obtain ⟨above, same, directory, entry⟩ :=
    walk_append nonempty (List.cons_ne_nil name []) walked
  rw [walk_of_locate located] at same
  cases same
  exact ⟨directory, entry⟩

end InstrumentBench.Disk
