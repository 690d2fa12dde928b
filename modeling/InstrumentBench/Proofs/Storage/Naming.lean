import InstrumentBench.Proofs.Storage.Location

/-!
# The place that a path names

The names of a path lead to one place, whatever stands on the way (`named`): without links, a
directory that is still missing will not lead elsewhere once it is made.  A path that is located
is located there (`named_of_locate`), and then directories stand all along the way
(`directory_of_onTheWay`).  The siblings of a path stand apart from the path and from each other
(`not_prefix_of_named_sibling`, `ne_of_named_siblings`).
-/

namespace InstrumentBench.Disk

/-! ## Following names -/

/-- The place that names lead to from a directory. -/
def follow (directory : Place) (names : List String) : Except IoError Place :=
  names.foldlM below directory

theorem follow_cons (directory : Place) (name : String) (names : List String) :
    follow directory (name :: names) = below directory name >>= fun place => follow place names :=
  List.foldlM_cons ..

theorem follow_append (directory : Place) (names more : List String) :
    follow directory (names ++ more) =
      follow directory names >>= fun place => follow place more :=
  List.foldlM_append ..

theorem follow_singleton (directory : Place) (name : String) :
    follow directory [name] = below directory name := by
  rw [follow_cons]
  cases below directory name <;> rfl

/-- Single dots lead nowhere. -/
theorem follow_filter (directory : Place) (names : List String) :
    follow directory (names.filter (· ≠ ".")) = follow directory names := by
  induction names generalizing directory with
  | nil => rfl
  | cons name rest ih =>
    by_cases dot : name = "."
    · rw [List.filter_cons_of_neg (by simpa using dot), follow_cons, below, if_pos dot, ih]
      rfl
    · rw [List.filter_cons_of_pos (by simpa using dot), follow_cons, follow_cons]
      exact congrArg _ (funext ih)

/-- The directory that the names of a path are followed from. -/
def start (disk : Disk) (path : String) : Place :=
  if Path.isAbsolute path then [] else disk.current

/-- The place that a path names, also where directories on the way there are missing. -/
def named (disk : Disk) (path : String) : Except IoError Place :=
  follow (disk.start path) (Path.pieces path)

theorem start_congr {before after : Disk} (same : after.current = before.current)
    (path : String) : after.start path = before.start path := by
  rw [start, start, same]

theorem named_congr {before after : Disk} (same : after.current = before.current)
    (path : String) : after.named path = before.named path := by
  rw [named, named, start_congr same]

theorem named_eq_follow_components (disk : Disk) (path : String) :
    disk.named path = follow (disk.start path) (Path.components path) := by
  rw [named, ← follow_filter, ← Path.filter_components, follow_filter]

theorem follow_of_walk {disk : Disk} {directory place : Place} {names : List String}
    (found : disk.walk directory names = .ok place) : follow directory names = .ok place := by
  fun_induction disk.walk directory names
  case case1 directory => exact found
  case case2 directory name => rw [follow_singleton, found]
  case case3 directory name next rest ih =>
    obtain ⟨middle, entry, -, found⟩ := walk_cons_eq_ok.1 found
    rw [follow_cons]
    exact Outcome.bind_eq_ok.2 ⟨middle, entry, ih middle found⟩

/-- A path that is located is located at the place that it names. -/
theorem named_of_locate {disk : Disk} {path : String} {place : Place}
    (found : disk.locate path = .ok place) : disk.named path = .ok place :=
  follow_of_walk (walk_of_locate found)

/-- Some of the first names, but not all, lead to a directory. -/
theorem directory_of_walk {disk : Disk} {directory middle place : Place}
    {front rest : List String} (nonempty : front ≠ []) (more : rest ≠ [])
    (found : disk.walk directory (front ++ rest) = .ok place)
    (led : follow directory front = .ok middle) : disk.node? middle = some .directory := by
  obtain ⟨above, walked, stands, -⟩ := walk_append nonempty more found
  rw [follow_of_walk walked] at led
  cases led
  exact stands

/-! ## Files by their place -/

/-- The contents of the file at a place, if there is one. -/
def fileAt (disk : Disk) (place : Place) : Option ByteArray :=
  match disk.node? place with
  | some (.file contents) => some contents
  | _ => none

/-- The contents of the file at the place that a path names, if there is one. -/
def held (disk : Disk) (path : String) : Option ByteArray :=
  (disk.named path).toOption.bind disk.fileAt

theorem fileAt_eq_some {disk : Disk} {place : Place} {contents : ByteArray} :
    disk.fileAt place = some contents ↔ disk.node? place = some (.file contents) := by
  rw [fileAt]
  rcases disk.node? place with _ | ⟨_ | _⟩ <;> simp

theorem fileAt_congr {before after : Disk} {place : Place}
    (same : after.node? place = before.node? place) : after.fileAt place = before.fileAt place := by
  rw [fileAt, fileAt, same]

theorem held_of_named {disk : Disk} {path : String} {place : Place}
    (named : disk.named path = .ok place) : disk.held path = disk.fileAt place := by
  rw [held, named]
  rfl

theorem held_eq_some {disk : Disk} {path : String} {contents : ByteArray} :
    disk.held path = some contents ↔
      ∃ place, disk.named path = .ok place ∧ disk.node? place = some (.file contents) := by
  rw [held]
  cases disk.named path with
  | error error => simp [Except.toOption]
  | ok place => simp [Except.toOption, fileAt_eq_some]

/-- What can be read stands at the place that the path names. -/
theorem held_of_read {disk : Disk} {path : String} {contents : ByteArray}
    (present : disk.read path = .ok contents) : disk.held path = some contents := by
  obtain ⟨-, place, located, stands⟩ := read_eq_ok.1 present
  exact held_eq_some.2 ⟨place, named_of_locate located, stands⟩

theorem GrowsAt.fileAt {before after : Disk} {place : Place} (grows : before.GrowsAt after place) :
    after.fileAt place = before.fileAt place := by
  cases grows with
  | inl same => exact fileAt_congr same
  | inr made => simp [Disk.fileAt, made.1, made.2]

/-! ## Siblings -/

/-- A suffix that makes a name of every name. -/
structure IsSuffix (suffix : String) : Prop where
  whole : '/' ∉ suffix.toList
  long : 2 < suffix.length

theorem IsSuffix.isPiece {suffix : String} (isSuffix : IsSuffix suffix) :
    Path.IsPiece suffix := by
  refine ⟨?_, isSuffix.whole⟩
  rintro rfl
  simpa using isSuffix.long

theorem IsSuffix.proper {suffix : String} (isSuffix : IsSuffix suffix) (name : String) :
    name ++ suffix ≠ "." ∧ name ++ suffix ≠ ".." := by
  have longer : 2 < (name ++ suffix).length := by
    have := isSuffix.long
    simp only [String.length_append]
    omega
  exact ⟨fun same => absurd (same ▸ longer) (by decide),
    fun same => absurd (same ▸ longer) (by decide)⟩

theorem endsInDots_sibling {suffix : String} (isSuffix : IsSuffix suffix) (path : String) :
    Path.endsInDots (Path.sibling path suffix) = false := by
  simp [Path.endsInDots, Path.pieces_sibling path isSuffix.isPiece, isSuffix.proper]

theorem exists_of_named {disk : Disk} {path : String} {place : Place}
    (named : disk.named path = .ok place) :
    ∃ above, follow (disk.start path) (Path.aboveSiblings path) = .ok above ∧
      place = above ++ (Path.fileName? path).toList := by
  rw [Path.aboveSiblings]
  cases last : Path.fileName? path with
  | none => exact ⟨place, named, by simp⟩
  | some name =>
    have whole := Path.getLast?_of_fileName? last
    have proper : name ≠ "." ∧ name ≠ ".." := by
      simpa using (Option.filter_eq_some_iff.1 last).2
    rw [named_eq_follow_components, ← List.dropLast_append_getLast? name whole, follow_append]
      at named
    obtain ⟨above, led, entry⟩ := Outcome.bind_eq_ok.1 named
    rw [follow_singleton] at entry
    exact ⟨above, by simpa using led, below_of_name proper.1 proper.2 entry⟩

theorem exists_of_named_sibling {disk : Disk} {path suffix : String} {place : Place}
    (isSuffix : IsSuffix suffix) (named : disk.named (Path.sibling path suffix) = .ok place) :
    ∃ above, follow (disk.start path) (Path.aboveSiblings path) = .ok above ∧
      place = above ++ [Path.stem path ++ suffix] := by
  have same : disk.start (Path.sibling path suffix) = disk.start path := by
    rw [start, start, Path.isAbsolute_sibling path isSuffix.isPiece]
  have proper := isSuffix.proper (Path.stem path)
  rw [Disk.named, same, Path.pieces_sibling path isSuffix.isPiece, follow_append] at named
  obtain ⟨above, led, entry⟩ := Outcome.bind_eq_ok.1 named
  rw [follow_singleton] at entry
  exact ⟨above, led, below_of_name proper.1 proper.2 entry⟩

/-- Neither the place of a path nor anything above it is the place of a sibling. -/
theorem not_prefix_of_named_sibling {disk : Disk} {path suffix : String} {place beside : Place}
    (isSuffix : IsSuffix suffix) (named : disk.named path = .ok place)
    (siblingNamed : disk.named (Path.sibling path suffix) = .ok beside) : ¬beside <+: place := by
  obtain ⟨above, led, rfl⟩ := exists_of_named named
  obtain ⟨above', led', rfl⟩ := exists_of_named_sibling isSuffix siblingNamed
  rw [led] at led'
  cases led'
  rw [List.prefix_append_right_inj, Path.stem]
  cases Path.fileName? path with
  | none => simp
  | some name =>
    intro start
    have same : name ++ suffix = name := by simpa using start
    exact isSuffix.isPiece.1 (String.append_eq_left_iff.1 same)

theorem ne_of_named_sibling {disk : Disk} {path suffix : String} {place beside : Place}
    (isSuffix : IsSuffix suffix) (named : disk.named path = .ok place)
    (siblingNamed : disk.named (Path.sibling path suffix) = .ok beside) : beside ≠ place := by
  rintro rfl
  exact not_prefix_of_named_sibling isSuffix named siblingNamed List.prefix_rfl

/-- Neither the place of a sibling nor anything above it is the place of another. -/
theorem not_prefix_of_named_siblings {disk : Disk} {path suffix other : String}
    {beside second : Place} (isSuffix : IsSuffix suffix) (otherIsSuffix : IsSuffix other)
    (named : disk.named (Path.sibling path suffix) = .ok beside)
    (otherNamed : disk.named (Path.sibling path other) = .ok second)
    (different : suffix ≠ other) : ¬beside <+: second := by
  obtain ⟨above, led, rfl⟩ := exists_of_named_sibling isSuffix named
  obtain ⟨above', led', rfl⟩ := exists_of_named_sibling otherIsSuffix otherNamed
  rw [led] at led'
  cases led'
  rw [List.prefix_append_right_inj]
  simpa using different

theorem ne_of_named_siblings {disk : Disk} {path suffix other : String} {beside second : Place}
    (isSuffix : IsSuffix suffix) (otherIsSuffix : IsSuffix other)
    (named : disk.named (Path.sibling path suffix) = .ok beside)
    (otherNamed : disk.named (Path.sibling path other) = .ok second)
    (different : suffix ≠ other) : beside ≠ second := by
  rintro rfl
  exact not_prefix_of_named_siblings isSuffix otherIsSuffix named otherNamed different
    List.prefix_rfl

/-- A path that ends in a name does not lead to anything above its siblings. -/
theorem not_prefix_named_sibling {disk : Disk} {path name suffix : String} {place beside : Place}
    (isSuffix : IsSuffix suffix) (last : Path.fileName? path = some name)
    (named : disk.named path = .ok place)
    (siblingNamed : disk.named (Path.sibling path suffix) = .ok beside) : ¬place <+: beside := by
  obtain ⟨above, led, rfl⟩ := exists_of_named named
  obtain ⟨above', led', rfl⟩ := exists_of_named_sibling isSuffix siblingNamed
  rw [led] at led'
  cases led'
  rw [List.prefix_append_right_inj, Path.stem, last]
  intro start
  have same : name = name ++ suffix := by simpa using start
  exact isSuffix.isPiece.1 (String.append_eq_left_iff.1 same.symm)

/-- The path of a file ends in a name, unless nothing can be located beside it. -/
theorem not_endsInDots_of_file {disk : Disk} {path suffix : String} {beside : Place}
    {contents : ByteArray} (isSuffix : IsSuffix suffix) (present : disk.read path = .ok contents)
    (found : disk.locate (Path.sibling path suffix) = .ok beside) :
    Path.endsInDots path = false := by
  obtain ⟨slash, place, located, stands⟩ := read_eq_ok.1 present
  obtain ⟨front, last, cut⟩ := Path.exists_last_piece (ne_empty_of_locate located) slash
  have noDirectory : disk.node? place ≠ some .directory := by simp [stands]
  by_contra dots
  have isDots : last ≠ "." → last = ".." := by simpa [Path.endsInDots, cut] using dots
  by_cases unnamed : last = ".." ∨ last = "." ∧ front = []
  case pos =>
    have walked := walk_of_locate found
    rw [Path.isAbsolute_sibling path isSuffix.isPiece, Path.pieces_sibling path isSuffix.isPiece,
      Path.aboveSiblings, if_pos (Path.fileName?_of_dots cut unnamed)] at walked
    exact noDirectory (directory_of_walk (by simp [cut]) (by simp) walked (named_of_locate located))
  case neg =>
    -- A dot after other names leads to a directory.
    obtain ⟨notUp, others⟩ := not_or.1 unnamed
    obtain rfl : last = "." := by_contra fun other => notUp (isDots other)
    have walked := walk_of_locate located
    rw [cut] at walked
    obtain ⟨above, -, directory, entry⟩ :=
      walk_append (fun alone => others ⟨rfl, alone⟩) (List.cons_ne_nil "." []) walked
    obtain rfl : above = place := Except.ok.inj entry
    exact noDirectory directory

/-! ## Directories on the way -/

/-- A place that the names of a path lead through. -/
def OnTheWay (disk : Disk) (path : String) (place : Place) : Prop :=
  ∃ front, front ≠ [] ∧ front <+: (Path.components path).dropLast ∧
    follow (disk.start path) front = .ok place

theorem onTheWay_congr {before after : Disk} (same : after.current = before.current)
    {path : String} {place : Place} : after.OnTheWay path place ↔ before.OnTheWay path place := by
  rw [OnTheWay, OnTheWay, start_congr same]

/-- To locate a sibling of a path, directories must stand on the way to the path. -/
theorem directory_of_onTheWay {disk : Disk} {path name suffix : String} {place beside : Place}
    (isSuffix : IsSuffix suffix) (last : Path.fileName? path = some name)
    (located : disk.locate (Path.sibling path suffix) = .ok beside)
    (onTheWay : disk.OnTheWay path place) : disk.node? place = some .directory := by
  obtain ⟨front, nonempty, ⟨rest, whole⟩, led⟩ := onTheWay
  have walked := walk_of_locate located
  rw [Path.isAbsolute_sibling path isSuffix.isPiece,
    Path.pieces_sibling path isSuffix.isPiece] at walked
  have above : Path.aboveSiblings path = front ++ rest := by
    simp [Path.aboveSiblings, last, whole]
  rw [above, List.append_assoc] at walked
  exact directory_of_walk nonempty (by simp) walked led

/-- A later disk has further directories only on the way to a path. -/
structure Opens (path : String) (before after : Disk) : Prop where
  current : after.current = before.current
  opened : ∀ place, after.node? place = some .directory →
    before.node? place = some .directory ∨ before.OnTheWay path place

theorem Opens.refl (path : String) (disk : Disk) : disk.Opens path disk :=
  ⟨rfl, fun _ => .inl⟩

theorem Opens.trans {path : String} {first second third : Disk} (left : first.Opens path second)
    (right : second.Opens path third) : first.Opens path third := by
  refine ⟨right.current.trans left.current, fun place stands => ?_⟩
  cases right.opened place stands with
  | inl earlier => exact left.opened place earlier
  | inr onTheWay => exact .inr ((onTheWay_congr left.current).1 onTheWay)

/-- What is made at the first names of a path, is made on the way to it. -/
theorem opens_of_makeDirectory {disk after : Disk} {path : String} {front : List String}
    (isStart : front <+: (Path.components path).dropLast)
    (made : disk.makeDirectory (Path.ofComponents (Path.isAbsolute path) front) = .ok after) :
    disk.Opens path after := by
  have tidy := ((Path.tidy_components path).of_start (List.dropLast_prefix _)).of_start isStart
  obtain ⟨target, located, absent, rfl⟩ := makeDirectory_eq_ok.1 made
  have led := named_of_locate located
  rw [named, start, Path.isAbsolute_ofComponents _ tidy.isPiece,
    Path.pieces_ofComponents _ tidy.isPiece] at led
  -- Without any name, the path is the root, which stands already, or leads nowhere.
  have nonempty : front ≠ [] := by
    rintro rfl
    cases absolute : Path.isAbsolute path with
    | true =>
      rw [absolute] at led
      cases led
      cases absent
    | false =>
      rw [absolute] at located
      cases located
  refine ⟨rfl, fun place stands => ?_⟩
  rw [node?_put] at stands
  split at stands
  next root => exact .inl (by rw [root, node?, if_pos rfl])
  split at stands
  next here => exact .inr ⟨front, nonempty, isStart, here ▸ led⟩
  next => exact .inl stands

/-- The directories that are made above a path are on the way to it. -/
theorem opens_makeDirectories (disk : Disk) {path parent : String}
    (isParent : Path.parent? path = some parent) :
    disk.Opens path (disk.makeDirectories parent).2 := by
  have tidy := (Path.tidy_components path).of_start (List.dropLast_prefix _)
  have same : parent =
      Path.ofComponents (Path.isAbsolute path) (Path.components path).dropLast := by
    rw [Path.parent?] at isParent
    split at isParent <;> cases isParent
    rfl
  refine related_makeDirectories (Opens path)
    (fun target => ∃ front, front <+: (Path.components path).dropLast ∧
      target = Path.ofComponents (Path.isAbsolute path) front)
    (.refl path) .trans ?_ disk ⟨_, List.prefix_rfl, same⟩ ?_
  case refine_1 =>
    rintro disk after _ ⟨front, isStart, rfl⟩ made
    exact opens_of_makeDirectory isStart made
  case refine_2 =>
    intro front _ isStart
    rw [same, tidy.components_ofComponents] at isStart
    refine ⟨front, isStart.trans (List.dropLast_prefix _), ?_⟩
    rw [same, Path.isAbsolute_ofComponents _ tidy.isPiece]

end InstrumentBench.Disk
