import InstrumentBench.Proofs.Storage.Location

/-!
# Writing and moving files

Where no directory stands, a file can be put without any path leading elsewhere than before
(`sameDirectories_put`), and a file can be moved there (`rename_file`).  All that a move can do
is said by `rename_eq_ok`.
-/

namespace InstrumentBench.Disk

/-- Two disks have the same directories. -/
structure SameDirectories (before after : Disk) : Prop where
  current : after.current = before.current
  standing : ∀ place, after.node? place = some .directory ↔ before.node? place = some .directory

theorem SameDirectories.locate {before after : Disk} (same : before.SameDirectories after)
    {path : String} {place : Place} :
    after.locate path = .ok place ↔ before.locate path = .ok place := by
  constructor
  · exact locate_of_keepsDirectories ⟨same.current.symm, fun place => (same.standing place).1⟩
  · exact locate_of_keepsDirectories ⟨same.current, fun place => (same.standing place).2⟩

theorem SameDirectories.read {before after : Disk} (same : before.SameDirectories after)
    {path : String} {place : Place} (located : before.locate path = .ok place)
    (unchanged : after.node? place = before.node? place) {contents : ByteArray} :
    after.read path = .ok contents ↔ before.read path = .ok contents := by
  have there : after.locate path = .ok place := same.locate.2 located
  simp [read_eq_ok, located, there, unchanged]

theorem sameDirectories_put {disk : Disk} {place : Place}
    (free : disk.node? place ≠ some .directory) (contents : ByteArray) :
    disk.SameDirectories (disk.put place (.file contents)) := by
  refine ⟨rfl, fun other => ?_⟩
  rw [node?_put]
  split
  next root => simp [root, node?]
  split
  next here => simp [here, free]
  next => rfl

theorem ne_nil_of_free {disk : Disk} {place : Place} (free : disk.node? place ≠ some .directory) :
    place ≠ [] := by
  rintro rfl
  exact free rfl

theorem read_put {disk : Disk} {path : String} {place : Place}
    (free : disk.node? place ≠ some .directory) (located : disk.locate path = .ok place)
    (ends : Path.endsInSlash path = false) (contents : ByteArray) :
    (disk.put place (.file contents)).read path = .ok contents := by
  refine read_eq_ok.2 ⟨ends, place, (sameDirectories_put free contents).locate.2 located, ?_⟩
  rw [node?_put, if_neg (ne_nil_of_free free), if_pos rfl]

theorem read_put_of_ne {disk : Disk} {path : String} {place other : Place} {old : ByteArray}
    (free : disk.node? place ≠ some .directory) (located : disk.locate path = .ok other)
    (apart : other ≠ place) (contents : ByteArray) :
    (disk.put place (.file contents)).read path = .ok old ↔ disk.read path = .ok old := by
  refine (sameDirectories_put free contents).read located ?_
  rw [node?_put, if_neg apart]
  split
  next root => rw [root, node?, if_pos rfl]
  next => rfl

theorem free_of_openFile {disk : Disk} {path : String} {place : Place} {contents : ByteArray}
    (opened : disk.openFile path = .ok (place, contents)) :
    disk.node? place ≠ some .directory := by
  obtain ⟨-, -, stands | ⟨absent, -⟩⟩ := openFile_eq_ok.1 opened
  · simp [stands]
  · simp [absent]

/-- What can be opened, can still be opened where the directories are the same. -/
theorem SameDirectories.openFile {before after : Disk} (same : before.SameDirectories after)
    {path : String} {earlier : Place × ByteArray} (opened : before.openFile path = .ok earlier) :
    ∃ later, after.openFile path = .ok later := by
  obtain ⟨place, contents⟩ := earlier
  obtain ⟨located, ends, -⟩ := openFile_eq_ok.1 opened
  have free : after.node? place ≠ some .directory := fun stands =>
    free_of_openFile opened ((same.standing place).1 stands)
  rcases standing : after.node? place with _ | ⟨longer | _⟩
  case none =>
    exact ⟨_, openFile_eq_ok.2 ⟨same.locate.2 located, ends, .inr ⟨standing, rfl⟩⟩⟩
  case some.file =>
    exact ⟨_, openFile_eq_ok.2 ⟨same.locate.2 located, ends, .inl standing⟩⟩
  case some.directory => exact absurd standing free

/-- A file has gone from one place to another. -/
structure MovedFile (before : Disk) (origin goal : Place) (contents : ByteArray) (after : Disk) :
    Prop where
  same : before.SameDirectories after
  arrived : after.node? goal = some (.file contents)
  gone : after.node? origin = none
  elsewhere : ∀ place, place ≠ origin → place ≠ goal → after.node? place = before.node? place

theorem movedFile_put_erase {disk : Disk} {origin goal : Place} {contents : ByteArray}
    (stands : disk.node? origin = some (.file contents))
    (free : disk.node? goal ≠ some .directory) (apart : origin ≠ goal) :
    disk.MovedFile origin goal contents ((disk.erase origin).put goal (.file contents)) := by
  have filled : disk.node? origin ≠ some .directory := by simp [stands]
  have node : ∀ other, ((disk.erase origin).put goal (.file contents)).node? other =
      if other = [] then some .directory else if other = goal then some (.file contents)
      else if other = origin then none else disk.node? other := by
    intro other
    rw [node?_put, node?_erase]
    split <;> rfl
  refine ⟨⟨rfl, fun other => ?_⟩, ?_, ?_, fun other notOrigin notGoal => ?_⟩ <;> rw [node]
  case refine_1 =>
    split
    next root => simp [root, node?]
    split
    next here => simp [here, free]
    split
    next here => simp [here, stands]
    next => rfl
  case refine_2 => rw [if_neg (ne_nil_of_free free), if_pos rfl]
  case refine_3 => rw [if_neg (ne_nil_of_free filled), if_neg apart, if_pos rfl]
  case refine_4 =>
    rw [if_neg notGoal, if_neg notOrigin]
    split
    next root => rw [root, node?, if_pos rfl]
    next => rfl

/-- A file is moved to a place where no directory stands. -/
theorem rename_file {disk : Disk} {source target : String} {origin goal : Place}
    {contents : ByteArray} (readable : disk.read source = .ok contents)
    (start : disk.locate source = .ok origin) (finish : disk.locate target = .ok goal)
    (free : disk.node? goal ≠ some .directory) (apart : origin ≠ goal)
    (sourceDots : Path.endsInDots source = false) (targetDots : Path.endsInDots target = false)
    (targetSlash : Path.endsInSlash target = false) :
    ∃ after, disk.rename source target = .ok after ∧
      disk.MovedFile origin goal contents after := by
  obtain ⟨ends, place, located, stands⟩ := read_eq_ok.1 readable
  obtain rfl : place = origin := by
    rw [start] at located
    exact (Except.ok.inj located).symm
  refine ⟨(disk.erase place).put goal (.file contents), ?_,
    movedFile_put_erase stands free apart⟩
  have found := find_of_file ends located stands
  rcases occupied : disk.node? goal with _ | ⟨_ | _⟩
  case some.directory => exact absurd occupied free
  all_goals
    simp [rename, start, finish, found, occupied, sourceDots, targetDots, targetSlash, bind,
      Except.bind, pure, Except.pure]

/-- What is found stands where the path leads. -/
theorem of_find {disk : Disk} {path : String} {place : Place} {node : Node}
    (found : disk.find path = .ok (place, node)) :
    disk.locate path = .ok place ∧ disk.node? place = some node := by
  rw [find] at found
  obtain ⟨there, located, found⟩ := Outcome.bind_eq_ok.1 found
  rcases standing : disk.node? there with _ | ⟨_ | _⟩ <;> rw [standing] at found
  case none => cases found
  case some.file =>
    dsimp only at found
    split at found <;> cases found
    exact ⟨located, standing⟩
  case some.directory =>
    cases found
    exact ⟨located, standing⟩

/-- Something is moved from where its path leads: a file to a place where no directory stands, or
a directory with all that is below it. -/
theorem rename_eq_ok {disk after : Disk} {source target : String}
    (moved : disk.rename source target = .ok after) :
    ∃ origin goal, disk.locate source = .ok origin ∧ disk.locate target = .ok goal ∧
      Path.endsInDots target = false ∧
      ((∃ contents, disk.node? origin = some (.file contents) ∧
          Path.endsInSlash target = false ∧ disk.node? goal ≠ some .directory ∧
          after = (disk.erase origin).put goal (.file contents)) ∨
        disk.node? origin = some .directory ∧ (origin = goal ∨ ¬origin <+: goal ∧
          ∃ cleared, (cleared = disk ∨ cleared = disk.erase goal) ∧
            after = cleared.moveTree origin goal)) := by
  rw [rename] at moved
  obtain ⟨origin, start, moved⟩ := Outcome.bind_eq_ok.1 moved
  obtain ⟨goal, finish, moved⟩ := Outcome.bind_eq_ok.1 moved
  refine ⟨origin, goal, start, finish, ?_⟩
  split at moved
  next => cases moved
  next dots =>
    refine ⟨by simpa using (not_or.1 dots).2, ?_⟩
    obtain ⟨⟨place, node⟩, found, moved⟩ := Outcome.bind_eq_ok.1 moved
    obtain ⟨there, standing⟩ := of_find found
    rw [start] at there
    cases there
    cases node with
    | file contents =>
      dsimp only at moved
      split at moved
      next => cases moved
      next slash =>
        split at moved
        next => cases moved
        next free =>
          exact .inl ⟨contents, standing, by simpa using slash, free,
            (Outcome.pure_eq_ok.1 moved).symm⟩
    | directory =>
      refine .inr ⟨standing, ?_⟩
      dsimp only at moved
      split at moved
      next same => exact .inl same
      split at moved
      next => cases moved
      next apart =>
        refine .inr ⟨by simpa using apart, ?_⟩
        split at moved
        next => cases moved
        next =>
          split at moved
          next => cases moved
          next => exact ⟨disk.erase goal, .inr rfl, (Outcome.pure_eq_ok.1 moved).symm⟩
        next => exact ⟨disk, .inl rfl, (Outcome.pure_eq_ok.1 moved).symm⟩

/-- Nothing stands where a directory was moved from, unless it was moved above itself. -/
theorem node?_moveTree_source (disk : Disk) {source target : Place} (nonempty : source ≠ [])
    (apart : ¬target <+: source) : (disk.moveTree source target).node? source = none := by
  rw [node?, if_neg nonempty, List.lookup_eq_none_iff]
  intro entry member
  obtain ⟨⟨place, node⟩, -, rfl⟩ := List.mem_map.1 member
  rw [bne_iff_ne, moved]
  split
  next =>
    intro same
    exact apart ⟨_, same.symm⟩
  next outside =>
    rintro rfl
    exact outside (by simp)

/-- What is neither below a directory nor below where it is moved, stays. -/
theorem node?_moveTree_apart (disk : Disk) {source target place : Place}
    (notSource : ¬source <+: place) (notTarget : ¬target <+: place) :
    (disk.moveTree source target).node? place = disk.node? place := by
  have still : ∀ other, place = moved source target other ↔ place = other := by
    intro other
    rw [moved]
    split
    next inside =>
      refine iff_of_false ?_ ?_
      · rintro rfl
        exact notTarget (List.prefix_append _ _)
      · rintro rfl
        exact notSource (List.isPrefixOf_iff_prefix.1 inside)
    next => exact Iff.rfl
  have found : ∀ nodes : List (Place × Node),
      (nodes.map fun entry => (moved source target entry.1, entry.2)).lookup place =
        nodes.lookup place := by
    intro nodes
    induction nodes with
    | nil => rfl
    | cons entry rest ih =>
      obtain ⟨other, node⟩ := entry
      have same : (place == moved source target other) = (place == other) := by
        rw [Bool.eq_iff_iff, beq_iff_eq, beq_iff_eq, still]
      rw [List.map_cons, List.lookup_cons, List.lookup_cons, same, ih]
  rw [node?, node?, moveTree, found]

/-- A file that is moved to another place has gone there. -/
theorem movedFile_of_rename {disk after : Disk} {source target : String} {contents : ByteArray}
    (readable : disk.read source = .ok contents)
    (moved : disk.rename source target = .ok after) :
    ∃ origin goal, disk.locate source = .ok origin ∧ disk.locate target = .ok goal ∧
      Path.endsInSlash target = false ∧ disk.node? goal ≠ some .directory ∧
      (origin ≠ goal → disk.MovedFile origin goal contents after) := by
  obtain ⟨-, place, located, stands⟩ := read_eq_ok.1 readable
  obtain ⟨origin, goal, start, finish, -, ⟨_, there, slash, free, rfl⟩ | ⟨directory, _⟩⟩ :=
    rename_eq_ok moved
  case inl =>
    rw [located] at start
    cases start
    rw [stands] at there
    cases there
    exact ⟨place, goal, located, finish, slash, free, movedFile_put_erase stands free⟩
  case inr =>
    rw [located] at start
    cases start
    rw [stands] at directory
    cases directory

/-- A file is not moved over a directory. -/
theorem free_of_rename_file {disk after : Disk} {source target : String} {contents : ByteArray}
    (readable : disk.read source = .ok contents)
    (moved : disk.rename source target = .ok after) :
    ∃ goal, disk.locate target = .ok goal ∧ disk.node? goal ≠ some .directory := by
  obtain ⟨-, goal, -, finish, -, free, -⟩ := movedFile_of_rename readable moved
  exact ⟨goal, finish, free⟩

theorem MovedFile.read_elsewhere {before after : Disk} {origin goal place : Place}
    {contents other : ByteArray} (moved : before.MovedFile origin goal contents after)
    {path : String} (located : before.locate path = .ok place) (notOrigin : place ≠ origin)
    (notGoal : place ≠ goal) : after.read path = .ok other ↔ before.read path = .ok other :=
  moved.same.read located (moved.elsewhere place notOrigin notGoal)

theorem MovedFile.read_target {before after : Disk} {origin goal : Place} {contents : ByteArray}
    (moved : before.MovedFile origin goal contents after) {path : String}
    (located : before.locate path = .ok goal) (ends : Path.endsInSlash path = false) :
    after.read path = .ok contents :=
  read_eq_ok.2 ⟨ends, goal, moved.same.locate.2 located, moved.arrived⟩

theorem MovedFile.read_source {before after : Disk} {origin goal : Place} {contents : ByteArray}
    (moved : before.MovedFile origin goal contents after) {path : String}
    (located : before.locate path = .ok origin) : after.read path = .error .notFound :=
  read_of_absent (moved.same.locate.2 located) moved.gone

end InstrumentBench.Disk
