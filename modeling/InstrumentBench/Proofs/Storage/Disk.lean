import InstrumentBench.Proofs.Outcome
import InstrumentBench.Storage.Disk

/-!
# What disk operations leave alone

Making directories only adds directories, also where it fails halfway, and adding to
a file changes nothing but that file.
-/

namespace InstrumentBench.Disk

theorem lookup_filter_ne (nodes : List (Place × Node)) (place other : Place) :
    (nodes.filter (·.1 ≠ place)).lookup other =
      if other = place then none else nodes.lookup other := by
  induction nodes with
  | nil => simp
  | cons entry rest ih =>
    obtain ⟨key, node⟩ := entry
    by_cases dropped : key = place
    · rw [List.filter_cons_of_neg (by simp [dropped]), ih, List.lookup_cons, dropped]
      by_cases same : other = place
      · rw [if_pos same, if_pos same]
      · rw [if_neg same, if_neg same, beq_false_of_ne same]
    · rw [List.filter_cons_of_pos (by simp [dropped]), List.lookup_cons, ih, List.lookup_cons]
      by_cases same : other = place
      · rw [if_pos same, if_pos same, same, beq_false_of_ne (Ne.symm dropped)]
      · rw [if_neg same, if_neg same]

/-- What stands at a place after something was taken away. -/
theorem node?_erase (disk : Disk) (place other : Place) :
    (disk.erase place).node? other =
      if other = [] then some .directory
      else if other = place then none else disk.node? other := by
  unfold node? erase
  split
  next => rfl
  next => rw [lookup_filter_ne]

/-- What stands at a place after something was put somewhere. -/
theorem node?_put (disk : Disk) (place other : Place) (node : Node) :
    (disk.put place node).node? other =
      if other = [] then some .directory
      else if other = place then some node else disk.node? other := by
  unfold node? put erase
  split
  next => rfl
  next =>
    rw [List.lookup_cons, lookup_filter_ne]
    by_cases same : other = place
    · simp [same]
    · rw [if_neg same, if_neg same, beq_false_of_ne same]

/-- A place is left alone, or a directory has been made there. -/
def GrowsAt (before after : Disk) (place : Place) : Prop :=
  after.node? place = before.node? place ∨
    before.node? place = none ∧ after.node? place = some .directory

/-- A later disk has everything that an earlier one had, and besides that only new
directories. -/
def Grows (before after : Disk) : Prop :=
  ∀ place, before.GrowsAt after place

theorem GrowsAt.trans {first second third : Disk} {place : Place}
    (left : first.GrowsAt second place) (right : second.GrowsAt third place) :
    first.GrowsAt third place := by
  rw [GrowsAt] at *
  rcases left with same | ⟨absent, made⟩
  · rwa [same] at right
  · rw [made] at right
    rcases right with same | ⟨absentLater, -⟩
    · exact .inr ⟨absent, same⟩
    · cases absentLater

theorem Grows.refl (disk : Disk) : disk.Grows disk :=
  fun _ => .inl rfl

theorem Grows.trans {first second third : Disk} (left : first.Grows second)
    (right : second.Grows third) : first.Grows third :=
  fun place => (left place).trans (right place)

/-! ## Making directories -/

/-- A directory is made where nothing stands. -/
theorem makeDirectory_eq_ok {disk after : Disk} {path : String} :
    disk.makeDirectory path = .ok after ↔
      ∃ place, disk.locate path = .ok place ∧ disk.node? place = none ∧
        disk.put place .directory = after := by
  rw [makeDirectory, Outcome.bind_eq_ok]
  refine exists_congr fun place => and_congr_right fun _ => ?_
  cases disk.node? place <;> simp

section

variable (related : Disk → Disk → Prop) (tried : String → Prop)
  (refl : ∀ disk, related disk disk)
  (trans : ∀ {first second third}, related first second → related second third →
    related first third)
  (make : ∀ {disk after path}, tried path → disk.makeDirectory path = .ok after →
    related disk after)

include refl make in
theorem related_ensureDirectory (disk : Disk) {path : String} (isTried : tried path) :
    related disk (disk.ensureDirectory path).2 := by
  rw [ensureDirectory]
  split
  next made => exact make isTried made
  next => exact refl disk

include refl trans make in
theorem related_makeBelow (disk : Disk) {path : String} (isTried : tried path)
    {makeAbove : Disk → Except IoError Unit × Disk}
    (above : ∀ disk, related disk (makeAbove disk).2) :
    related disk (disk.makeBelow path makeAbove).2 := by
  have first := related_ensureDirectory related tried refl make disk isTried
  rw [makeBelow]
  split
  next middle missing =>
    rw [missing] at first
    have second := above middle
    split
    next later made =>
      rw [made] at second
      exact trans (trans first second)
        (related_ensureDirectory related tried refl make later isTried)
    next later made =>
      rw [made] at second
      exact trans first second
  next => exact first

include refl trans make in
theorem related_makeChain (absolute : Bool) {componentsBack : List String}
    (aboveTried : ∀ back, back ≠ [] → back <:+ componentsBack →
      tried (Path.ofComponents absolute back.reverse)) (disk : Disk) :
    related disk (makeChain absolute componentsBack disk).2 := by
  induction componentsBack generalizing disk with
  | nil => exact refl disk
  | cons name above ih =>
    refine related_makeBelow related tried refl trans make disk
      (aboveTried (name :: above) (List.cons_ne_nil name above) List.suffix_rfl) (ih ?_)
    intro back some isEnd
    exact aboveTried back some (isEnd.trans (List.suffix_cons name above))

include refl trans make in
/-- What making one directory does, making directories does: the one that is asked for and those
above it. -/
theorem related_makeDirectories (disk : Disk) {path : String} (isTried : tried path)
    (aboveTried : ∀ front, front ≠ [] → front <+: (Path.components path).dropLast →
      tried (Path.ofComponents (Path.isAbsolute path) front)) :
    related disk (disk.makeDirectories path).2 := by
  rw [makeDirectories]
  split
  next => exact refl disk
  next =>
    refine related_makeBelow related tried refl trans make disk isTried
      (related_makeChain related tried refl trans make _ ?_)
    intro back some isEnd
    refine aboveTried back.reverse (by simpa using some) ?_
    exact List.reverse_suffix.1 (by simpa using isEnd)

end

theorem grows_put {disk : Disk} {place : Place} (absent : disk.node? place = none) :
    disk.Grows (disk.put place .directory) := by
  intro other
  rw [GrowsAt, node?_put]
  split
  next root => exact .inl (by simp [node?, root])
  split
  next same => exact .inr ⟨by rw [same, absent], rfl⟩
  next => exact .inl rfl

/-- Making directories only adds directories. -/
theorem grows_makeDirectories (disk : Disk) (path : String) :
    disk.Grows (disk.makeDirectories path).2 := by
  refine related_makeDirectories Grows (fun _ => True) .refl .trans ?_ disk trivial
    fun _ _ _ => trivial
  intro disk after path _ made
  obtain ⟨place, -, absent, rfl⟩ := makeDirectory_eq_ok.1 made
  exact grows_put absent

/-- Making directories does not change where relative paths start. -/
theorem current_makeDirectories (disk : Disk) (path : String) :
    (disk.makeDirectories path).2.current = disk.current := by
  refine related_makeDirectories (fun before after => after.current = before.current)
    (fun _ => True) (fun _ => rfl) (fun left right => right.trans left) ?_ disk trivial
    fun _ _ _ => trivial
  intro disk after path _ made
  obtain ⟨place, -, -, rfl⟩ := makeDirectory_eq_ok.1 made
  rfl

/-! ## Opening files -/

/-- A file is opened where a path that does not end in a slash leads to a file or to
nothing. -/
theorem openFile_eq_ok {disk : Disk} {path : String} {place : Place} {contents : ByteArray} :
    disk.openFile path = .ok (place, contents) ↔
      disk.locate path = .ok place ∧ Path.endsInSlash path = false ∧
        (disk.node? place = some (.file contents) ∨
          disk.node? place = none ∧ contents = ByteArray.empty) := by
  rw [openFile, Outcome.bind_eq_ok]
  constructor
  · rintro ⟨located, found, opened⟩
    rcases standing : disk.node? located with _ | ⟨_ | _⟩ <;> rw [standing] at opened
    case none =>
      dsimp only at opened
      split at opened <;> cases opened
      next ends => exact ⟨found, by simpa using ends, .inr ⟨standing, rfl⟩⟩
    case some.file =>
      dsimp only at opened
      split at opened <;> cases opened
      next ends => exact ⟨found, by simpa using ends, .inl standing⟩
    case some.directory => cases opened
  · rintro ⟨found, ends, stands | ⟨stands, rfl⟩⟩
    · exact ⟨place, found, by simp [stands, ends]⟩
    · exact ⟨place, found, by simp [stands, ends]⟩

theorem locate_of_openFile {disk : Disk} {path : String} {place : Place} {contents : ByteArray}
    (opened : disk.openFile path = .ok (place, contents)) : disk.locate path = .ok place :=
  (openFile_eq_ok.1 opened).1

/-- Adding to a file changes nothing at any place that its path does not name. -/
theorem node?_of_appendFile {disk after : Disk} {path : String} {data : ByteArray}
    (added : disk.appendFile path data = .ok after) {place : Place}
    (elsewhere : disk.locate path ≠ .ok place) : after.node? place = disk.node? place := by
  rw [appendFile] at added
  obtain ⟨⟨target, contents⟩, opened, same⟩ := Outcome.bind_eq_ok.1 added
  obtain rfl := Outcome.pure_eq_ok.1 same
  have different : place ≠ target := fun same =>
    elsewhere (same ▸ locate_of_openFile opened)
  rw [node?_put, if_neg different]
  split
  next root => simp [node?, root]
  next => rfl

end InstrumentBench.Disk
