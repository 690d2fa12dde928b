import InstrumentBench.Proofs.Storage.Change
import InstrumentBench.Proofs.Storage.Naming
import InstrumentBench.Proofs.Storage.Observation
import InstrumentBench.Storage.Replacement

/-!
# What is seen while a file is replaced

A replacement is observed between any two of its questions to the outside world.  The new
contents are prepared beside the file, which stays as it is (`staged_of_createFile`,
`Staged.appendFile`), and then two moves follow (`Staged.moves`).  `Replaces` says what an
attempt shows; it is kept when a harmless question is put before an attempt
(`Replaces.ask`), so `replaceFile_intact_iff` is put together from the end.
-/

namespace InstrumentBench

namespace Disk

/-! ## The file, its replacement and its backup -/

theorem isSuffix_tmp : IsSuffix ".tmp" :=
  ⟨by decide, by decide⟩

theorem isSuffix_bak : IsSuffix ".bak" :=
  ⟨by decide, by decide⟩

/-- The path of a file leads to its old contents or to the new ones. -/
def Intact (disk : Disk) (path : String) (old new : ByteArray) : Prop :=
  disk.read path = .ok old ∨ disk.read path = .ok new

instance (disk : Disk) (path : String) (old new : ByteArray) :
    Decidable (disk.Intact path old new) :=
  inferInstanceAs (Decidable (_ ∨ _))

/-- The path of a file leads to nothing: the old contents are the backup already, the new
ones are still beside the path. -/
structure Displaced (disk : Disk) (path : String) (old new : ByteArray) : Prop where
  missing : disk.read path = .error .notFound
  backup : disk.read (Path.sibling path ".bak") = .ok old
  staged : disk.read (Path.sibling path ".tmp") = .ok new

/-- The old contents are in place, and others beside them. -/
structure Staged (disk : Disk) (path : String) (old beside : ByteArray) : Prop where
  present : disk.read path = .ok old
  staged : disk.read (Path.sibling path ".tmp") = .ok beside

theorem Displaced.not_intact {disk : Disk} {path : String} {old new : ByteArray}
    (displaced : disk.Displaced path old new) : ¬disk.Intact path old new := by
  rintro (present | present) <;> rw [displaced.missing] at present <;> cases present

/-- An empty file has been made beside the file, if any. -/
theorem staged_of_createFile {disk after : Disk} {path : String} {old : ByteArray}
    (present : disk.read path = .ok old)
    (made : disk.createFile (Path.sibling path ".tmp") = .ok after) :
    after.Staged path old ByteArray.empty := by
  obtain ⟨⟨place, contents⟩, opened, same⟩ := Outcome.bind_eq_ok.1 made
  obtain rfl := Outcome.pure_eq_ok.1 same
  obtain ⟨located, ends, -⟩ := openFile_eq_ok.1 opened
  have free := free_of_openFile opened
  obtain ⟨-, origin, there, -⟩ := read_eq_ok.1 present
  have apart : place ≠ origin :=
    ne_of_named_sibling isSuffix_tmp (named_of_locate there) (named_of_locate located)
  exact ⟨(read_put_of_ne free there apart.symm _).2 present, read_put free located ends _⟩

/-- What is added to the file beside the file, is added. -/
theorem Staged.appendFile {disk : Disk} {path : String} {old beside : ByteArray}
    (staged : disk.Staged path old beside) (data : ByteArray) :
    ∃ after, disk.appendFile (Path.sibling path ".tmp") data = .ok after ∧
      after.Staged path old (beside ++ data) := by
  obtain ⟨present, readable⟩ := staged
  obtain ⟨ends, place, located, stands⟩ := read_eq_ok.1 readable
  obtain ⟨-, origin, there, -⟩ := read_eq_ok.1 present
  have opened := openFile_eq_ok.2 ⟨located, ends, .inl stands⟩
  have free : disk.node? place ≠ some .directory := by simp [stands]
  have apart : place ≠ origin :=
    ne_of_named_sibling isSuffix_tmp (named_of_locate there) (named_of_locate located)
  refine ⟨disk.put place (.file (beside ++ data)), ?_, ?_, ?_⟩
  case refine_1 => exact Outcome.bind_eq_ok.2 ⟨_, opened, rfl⟩
  case refine_2 => exact (read_put_of_ne free there apart.symm _).2 present
  case refine_3 => exact read_put free located ends _

/-- Unless a directory stands where the backup should, the old contents are moved there, and
the new ones to the path. -/
theorem Staged.moves_of_free {disk : Disk} {path : String} {old new : ByteArray} {backup : Place}
    (staged : disk.Staged path old new)
    (bakLocated : disk.locate (Path.sibling path ".bak") = .ok backup)
    (free : disk.node? backup ≠ some .directory) :
    ∃ middle after, disk.rename path (Path.sibling path ".bak") = .ok middle ∧
      middle.Displaced path old new ∧
      middle.rename (Path.sibling path ".tmp") path = .ok after ∧
      after.read path = .ok new ∧ after.read (Path.sibling path ".bak") = .ok old := by
  obtain ⟨present, readable⟩ := staged
  obtain ⟨slash, origin, located, stands⟩ := read_eq_ok.1 present
  obtain ⟨-, temporary, tmpLocated, -⟩ := read_eq_ok.1 readable
  have dots := not_endsInDots_of_file isSuffix_tmp present tmpLocated
  have tmpDots := endsInDots_sibling isSuffix_tmp path
  have bakDots := endsInDots_sibling isSuffix_bak path
  have bakSlash := Path.endsInSlash_sibling path isSuffix_bak.isPiece
  have named := named_of_locate located
  have tmpNamed := named_of_locate tmpLocated
  have bakNamed := named_of_locate bakLocated
  have tmpApart : temporary ≠ origin := ne_of_named_sibling isSuffix_tmp named tmpNamed
  have bakApart : backup ≠ origin := ne_of_named_sibling isSuffix_bak named bakNamed
  have siblings : temporary ≠ backup :=
    ne_of_named_siblings isSuffix_tmp isSuffix_bak tmpNamed bakNamed (by decide)
  obtain ⟨middle, first, moved⟩ :=
    rename_file present located bakLocated free bakApart.symm dots bakDots bakSlash
  have tmpReadable : middle.read (Path.sibling path ".tmp") = .ok new :=
    (moved.read_elsewhere tmpLocated tmpApart siblings).2 readable
  have gone : middle.node? origin ≠ some .directory := by simp [moved.gone]
  obtain ⟨after, second, movedBack⟩ := rename_file tmpReadable (moved.same.locate.2 tmpLocated)
    (moved.same.locate.2 located) gone tmpApart tmpDots dots slash
  have kept : middle.read (Path.sibling path ".bak") = .ok old :=
    moved.read_target bakLocated bakSlash
  refine ⟨middle, after, first, ⟨moved.read_source located, kept, tmpReadable⟩, second,
    movedBack.read_target (moved.same.locate.2 located) slash, ?_⟩
  exact (movedBack.read_elsewhere (moved.same.locate.2 bakLocated) siblings.symm bakApart).2 kept

/-- Where the backup cannot be placed, the old contents stay at the path until the new ones
are moved over them. -/
theorem Staged.moves_of_blocked {disk : Disk} {path : String} {old new : ByteArray}
    (staged : disk.Staged path old new)
    (blocked : ¬∃ backup, disk.locate (Path.sibling path ".bak") = .ok backup ∧
      disk.node? backup ≠ some .directory) :
    ∃ error after, disk.rename path (Path.sibling path ".bak") = .error error ∧
      disk.rename (Path.sibling path ".tmp") path = .ok after ∧
      after.read path = .ok new ∧ after.read (Path.sibling path ".bak") ≠ .ok old := by
  obtain ⟨present, readable⟩ := staged
  obtain ⟨slash, origin, located, stands⟩ := read_eq_ok.1 present
  obtain ⟨-, temporary, tmpLocated, -⟩ := read_eq_ok.1 readable
  have dots := not_endsInDots_of_file isSuffix_tmp present tmpLocated
  have tmpDots := endsInDots_sibling isSuffix_tmp path
  have tmpApart : temporary ≠ origin :=
    ne_of_named_sibling isSuffix_tmp (named_of_locate located) (named_of_locate tmpLocated)
  have filled : disk.node? origin ≠ some .directory := by simp [stands]
  obtain ⟨after, second, moved⟩ :=
    rename_file readable tmpLocated located filled tmpApart tmpDots dots slash
  have unreadable : after.read (Path.sibling path ".bak") ≠ .ok old := by
    intro kept
    obtain ⟨-, backup, bakLocated, bakStands⟩ := read_eq_ok.1 kept
    refine blocked ⟨backup, moved.same.locate.1 bakLocated, fun directory => ?_⟩
    rw [(moved.same.standing backup).2 directory] at bakStands
    cases bakStands
  cases first : disk.rename path (Path.sibling path ".bak") with
  | error error =>
    exact ⟨error, after, rfl, second, moved.read_target located slash, unreadable⟩
  | ok middle => exact absurd (free_of_rename_file present first) blocked

/-- What the two moves at the end do.  The second takes the new contents to the path in
any case; the first is possible unless a directory stands where the backup should. -/
theorem Staged.moves {disk : Disk} {path : String} {old new : ByteArray}
    (staged : disk.Staged path old new) :
    (∃ middle after, disk.rename path (Path.sibling path ".bak") = .ok middle ∧
      middle.Displaced path old new ∧
      middle.rename (Path.sibling path ".tmp") path = .ok after ∧
      after.read path = .ok new ∧ after.read (Path.sibling path ".bak") = .ok old) ∨
    ∃ error after, disk.rename path (Path.sibling path ".bak") = .error error ∧
      disk.rename (Path.sibling path ".tmp") path = .ok after ∧
      after.read path = .ok new ∧ after.read (Path.sibling path ".bak") ≠ .ok old := by
  by_cases possible : ∃ backup, disk.locate (Path.sibling path ".bak") = .ok backup ∧
      disk.node? backup ≠ some .directory
  case pos =>
    obtain ⟨backup, located, free⟩ := possible
    exact .inl (staged.moves_of_free located free)
  case neg => exact .inr (staged.moves_of_blocked possible)

theorem exists?_of_read {disk : Disk} {path : String} {contents : ByteArray}
    (present : disk.read path = .ok contents) : disk.exists? path = true := by
  obtain ⟨ends, place, located, stands⟩ := read_eq_ok.1 present
  rw [exists?, find_of_file ends located stands]

end Disk

/-! ## The questions of a replacement -/

/-- Keeping the backup of something is looking and moving it. -/
theorem keepBackup_of_exists {path : String} {world : World}
    (present : world.disk.exists? path = true) :
    ((keepBackup path).run world).2 =
        ((Action.reply (.rename path (Path.sibling path ".bak"))).run world).2 ∧
      (keepBackup path).worlds world =
        world :: (Action.reply (.rename path (Path.sibling path ".bak"))).worlds world := by
  have asked : world.answer (.exists path) = (true, world) := congrArg (·, world) present
  constructor
  case left =>
    rw [keepBackup, Action.run_bind, Action.run_reply, asked]
    rfl
  case right =>
    rw [keepBackup, Action.worlds_reply_bind, asked]
    rfl

namespace World

variable {world : World} {path : String} {old : ByteArray}

theorem answer_rename_of_ok (world : World) {source target : String} {disk : Disk}
    (moved : world.disk.rename source target = .ok disk) :
    world.answer (.rename source target) = (.ok (), { world with disk := disk }) :=
  congrArg world.change moved

theorem answer_rename_of_error (world : World) {source target : String} {error : IoError}
    (moved : world.disk.rename source target = .error error) :
    world.answer (.rename source target) = (.error error, world) :=
  congrArg world.change moved

/-- Making the directories above a file, or failing to, leaves it alone. -/
theorem answer_makeDirectories (present : world.disk.read path = .ok old) (directory : String) :
    ∃ result after, world.answer (.makeDirectories directory) = (result, after) ∧
      after.disk.read path = .ok old := by
  refine ⟨_, _, rfl, ?_⟩
  obtain ⟨ends, place, located, stands⟩ := Disk.read_eq_ok.1 present
  have grows := Disk.grows_makeDirectories world.disk directory
  have current := Disk.current_makeDirectories world.disk directory
  refine Disk.read_eq_ok.2 ⟨ends, place,
    Disk.locate_of_keepsDirectories (grows.keepsDirectories current) located, ?_⟩
  rcases grows place with same | ⟨absent, -⟩
  · exact same.trans stands
  · rw [absent] at stands
    cases stands

/-- Making a file beside a file, or failing to, leaves that alone. -/
theorem answer_createFile (present : world.disk.read path = .ok old) :
    ∃ result after, world.answer (.createFile (Path.sibling path ".tmp")) = (result, after) ∧
      after.disk.read path = .ok old ∧
      (result = .ok () → after.disk.Staged path old ByteArray.empty) := by
  cases made : world.disk.createFile (Path.sibling path ".tmp") with
  | error error => exact ⟨.error error, world, congrArg world.change made, present, nofun⟩
  | ok disk =>
    have staged := Disk.staged_of_createFile present made
    exact ⟨.ok (), { world with disk := disk }, congrArg world.change made, staged.present,
      fun _ => staged⟩

theorem answer_writeFile {beside : ByteArray} (staged : world.disk.Staged path old beside)
    (data : ByteArray) :
    ∃ after, world.answer (.writeFile (Path.sibling path ".tmp") data) = (.ok (), after) ∧
      after.disk.Staged path old (beside ++ data) := by
  obtain ⟨disk, added, longer⟩ := staged.appendFile data
  exact ⟨{ world with disk := disk }, congrArg world.change added, longer⟩

end World

/-- The two moves at the end of a replacement. -/
def exchange (path : String) : Attempt FileError Unit := do
  ExceptT.lift (keepBackup path)
  .io (.reply (.rename (Path.sibling path ".tmp") path))

/-- A replacement once the directories above the path have been made. -/
def stage (path : String) (data : ByteArray) : Attempt FileError Unit := do
  .io (.reply (.createFile (Path.sibling path ".tmp")))
  .io (.reply (.writeFile (Path.sibling path ".tmp") data))
  .io (.reply (.syncFile (Path.sibling path ".tmp")))
  exchange path

theorem replaceFile_eq (path : String) (data : ByteArray) :
    replaceFile path data = makeParent path >>= fun _ => stage path data := rfl

theorem makeParent_cases (path : String) :
    makeParent path = pure () ∨
      ∃ parent, Path.parent? path = some parent ∧
        makeParent path = .io (.reply (.makeDirectories parent)) := by
  rw [makeParent]
  cases Path.parent? path with
  | none => exact .inl rfl
  | some parent =>
    by_cases empty : parent = ""
    · exact .inl (if_pos empty)
    · exact .inr ⟨parent, rfl, if_neg empty⟩

/-! ## Replacing -/

/-- What an attempt to replace a file shows, in a world where the path still leads to the
old contents. -/
structure Replaces (path : String) (old new : ByteArray) (attempt : Attempt FileError Unit)
    (world : World) : Prop where
  observed : ∀ between ∈ attempt.run.worlds world,
    between.disk.Intact path old new ∨ between.disk.Displaced path old new
  written : (attempt.run.run world).1 = .ok () →
    (attempt.run.run world).2.disk.read path = .ok new
  refused : ∀ error, (attempt.run.run world).1 = .error error →
    (attempt.run.run world).2.disk.read path = .ok old
  displaced : (∃ between ∈ attempt.run.worlds world, between.disk.Displaced path old new) ↔
    (attempt.run.run world).1 = .ok () ∧
      (attempt.run.run world).2.disk.read (Path.sibling path ".bak") = .ok old

namespace Replaces

variable {path : String} {old new : ByteArray} {world : World}

/-- An attempt may fail that leaves the old contents in place. -/
theorem of_error {attempt : Attempt FileError Unit} {error : FileError}
    (kept : ∀ between ∈ attempt.run.worlds world, between.disk.read path = .ok old)
    (failed : (attempt.run.run world).1 = .error error) :
    Replaces path old new attempt world := by
  refine ⟨fun between member => .inl (.inl (kept between member)), ?_, ?_, ?_⟩
  case refine_1 => simp [failed]
  case refine_2 => exact fun _ _ => kept _ (Action.mem_worlds_run attempt.run world)
  case refine_3 =>
    rw [failed]
    exact ⟨fun ⟨between, member, displaced⟩ =>
      absurd (.inl (kept between member)) displaced.not_intact, nofun⟩

/-- An attempt may succeed. -/
theorem of_ok {attempt : Attempt FileError Unit} {after : World}
    (run : attempt.run.run world = (.ok (), after)) (present : after.disk.read path = .ok new)
    (observed : ∀ between ∈ attempt.run.worlds world,
      between.disk.Intact path old new ∨ between.disk.Displaced path old new)
    (displaced : (∃ between ∈ attempt.run.worlds world, between.disk.Displaced path old new) ↔
      after.disk.read (Path.sibling path ".bak") = .ok old) :
    Replaces path old new attempt world := by
  refine ⟨observed, fun _ => ?_, fun error failed => ?_, ?_⟩
  case refine_1 => rw [run, present]
  case refine_2 =>
    rw [run] at failed
    cases failed
  case refine_3 => rw [run, displaced, and_iff_right rfl]

/-- An attempt may first leave the old contents in place for a while. -/
theorem of_later {attempt later : Attempt FileError Unit} {earlier : List World} {after : World}
    (replaces : Replaces path old new later after)
    (kept : ∀ between ∈ earlier, between.disk.read path = .ok old)
    (run : attempt.run.run world = later.run.run after)
    (passed : ∀ between, between ∈ attempt.run.worlds world ↔
      between ∈ earlier ∨ between ∈ later.run.worlds after) :
    Replaces path old new attempt world := by
  obtain ⟨observed, written, refused, displaced⟩ := replaces
  rw [← run] at written refused displaced
  refine ⟨fun between member => ?_, written, refused, Iff.trans ⟨?_, ?_⟩ displaced⟩
  case refine_1 =>
    rcases (passed between).1 member with early | late
    · exact .inl (.inl (kept between early))
    · exact observed between late
  case refine_2 =>
    rintro ⟨between, member, displaced⟩
    rcases (passed between).1 member with early | late
    · exact absurd (.inl (kept between early)) displaced.not_intact
    · exact ⟨between, late, displaced⟩
  case refine_3 =>
    rintro ⟨between, late, displaced⟩
    exact ⟨between, (passed between).2 (.inr late), displaced⟩

/-- A question that leaves the old contents in place may come first. -/
theorem ask {answer : Action (Except IoError Unit)} {rest : Unit → Attempt FileError Unit}
    {result : Except IoError Unit} {after : World}
    (single : answer.run world = (result, after) ∧ answer.worlds world = [world, after])
    (present : world.disk.read path = .ok old) (kept : after.disk.read path = .ok old)
    (replaces : result = .ok () → Replaces path old new (rest ()) after) :
    Replaces path old new (.io answer >>= rest) world := by
  obtain ⟨ran, asked⟩ := single
  have run := Attempt.io_bind_run answer rest world
  have passed := Attempt.mem_worlds_io_bind answer rest world
  simp only [ran, asked] at run passed
  have intact : ∀ between ∈ [world, after], between.disk.read path = .ok old := by
    simp [present, kept]
  cases result with
  | error error =>
    refine of_error (fun between member => ?_) (congrArg Prod.fst run)
    rcases (passed between).1 member with early | rfl
    · exact intact between early
    · exact kept
  | ok done => exact (replaces rfl).of_later intact run passed

theorem of_staged (staged : world.disk.Staged path old new) :
    Replaces path old new (exchange path) world := by
  obtain ⟨backedUp, backingUp⟩ := keepBackup_of_exists (Disk.exists?_of_read staged.present)
  have run : (exchange path).run.run world = _ :=
    Attempt.run_lift_bind (keepBackup path) _ world
  have passed : ∀ between, between ∈ (exchange path).run.worlds world ↔ _ :=
    Attempt.mem_worlds_lift_bind (keepBackup path) _ world
  simp only [backedUp, backingUp, Attempt.io_run, Attempt.mem_worlds_io] at run passed
  rcases staged.moves with ⟨middle, after, first, displaced, second, present, backup⟩ |
    ⟨error, after, first, second, present, backup⟩
  case inl =>
    obtain ⟨one, oneWorlds⟩ := Action.reply_of_answer (World.answer_rename_of_ok world first)
    obtain ⟨two, twoWorlds⟩ :=
      Action.reply_of_answer (World.answer_rename_of_ok { world with disk := middle } second)
    simp only [one, oneWorlds, two, twoWorlds] at run passed
    refine of_ok run present (fun between member => ?_) (iff_of_true ?_ backup)
    case refine_1 =>
      have which : between = world ∨ between = { world with disk := middle } ∨
          between = { world with disk := after } := by
        simpa [or_assoc] using (passed between).1 member
      rcases which with rfl | rfl | rfl
      · exact .inl (.inl staged.present)
      · exact .inr displaced
      · exact .inl (.inr present)
    case refine_2 => exact ⟨{ world with disk := middle }, (passed _).2 (by simp), displaced⟩
  case inr =>
    obtain ⟨one, oneWorlds⟩ := Action.reply_of_answer (World.answer_rename_of_error world first)
    obtain ⟨two, twoWorlds⟩ := Action.reply_of_answer (World.answer_rename_of_ok world second)
    simp only [one, oneWorlds, two, twoWorlds] at run passed
    have intact : ∀ between ∈ (exchange path).run.worlds world,
        between.disk.Intact path old new := by
      intro between member
      have which : between = world ∨ between = { world with disk := after } := by
        simpa [or_assoc] using (passed between).1 member
      rcases which with rfl | rfl
      · exact .inl staged.present
      · exact .inr present
    refine of_ok run present (fun between member => .inl (intact between member))
      (iff_of_false ?_ backup)
    exact fun ⟨between, member, displaced⟩ => displaced.not_intact (intact between member)

/-- The new contents are written beside the old ones and put in their place. -/
theorem of_present (present : world.disk.read path = .ok old) :
    Replaces path old new (stage path new) world := by
  obtain ⟨result, middle, created, kept, empty⟩ := World.answer_createFile present
  refine .ask (Action.reply_of_answer created) present kept fun made => ?_
  obtain ⟨after, written, full⟩ := World.answer_writeFile (empty made) new
  rw [ByteArray.empty_append] at full
  refine .ask (Action.reply_of_answer written) kept full.present fun _ => ?_
  exact .ask (Action.reply_of_answer rfl) full.present full.present fun _ => of_staged full

end Replaces

/-- What an attempt to replace a file shows. -/
theorem replaces_replaceFile {path : String} {old : ByteArray} {world : World}
    (present : world.disk.read path = .ok old) (new : ByteArray) :
    Replaces path old new (replaceFile path new) world := by
  rw [replaceFile_eq]
  rcases makeParent_cases path with none | ⟨parent, -, some⟩
  · rw [none]
    exact Replaces.of_present present
  · rw [some]
    obtain ⟨result, after, made, kept⟩ := World.answer_makeDirectories present parent
    exact .ask (Action.reply_of_answer made) present kept fun _ => .of_present kept

/-- While a file is replaced, its path leads to the old contents or to the new ones at every
point, unless the replacement succeeds and its backup holds the old contents: then there is
a point at which the path leads to nothing.  In the end it leads to the new contents if the
replacement succeeds, and to the old ones if it fails. -/
theorem replaceFile_intact_iff (path : String) (old new : ByteArray) (world : World)
    (present : world.disk.read path = .ok old) :
    let attempt := (replaceFile path new).run
    let result := (attempt.run world).1
    let after := (attempt.run world).2.disk
    ((∀ between ∈ attempt.worlds world, between.disk.Intact path old new) ↔
        ¬(result = .ok () ∧ after.read (Path.sibling path ".bak") = .ok old)) ∧
      (∀ between ∈ attempt.worlds world,
        between.disk.Intact path old new ∨ between.disk.Displaced path old new) ∧
      (result = .ok () → after.read path = .ok new) ∧
      ∀ error, result = .error error → after.read path = .ok old := by
  obtain ⟨observed, written, refused, displaced⟩ := replaces_replaceFile present new
  refine ⟨?_, observed, written, refused⟩
  rw [← displaced]
  constructor
  · rintro intact ⟨between, member, displaced⟩
    exact displaced.not_intact (intact between member)
  · intro never between member
    exact (observed between member).resolve_right fun displaced =>
      never ⟨between, member, displaced⟩

/-- A world with a file and other nodes beside it. -/
def World.withFile (contents : ByteArray) (others : List (Place × Node)) : World :=
  ⟨⟨[], (["a.json"], .file contents) :: others⟩, fun _ => 0, 0⟩

/-- Where a directory stands in the way of the backup, the path is never without contents. -/
theorem replaceFile_intact_without_backup :
    let world := World.withFile "1".toUTF8 [(["a.json.bak"], .directory)]
    world.disk.read "a.json" = .ok "1".toUTF8 ∧
      ∀ between ∈ (replaceFile "a.json" "2".toUTF8).run.worlds world,
        between.disk.Intact "a.json" "1".toUTF8 "2".toUTF8 := by
  intro world
  have present : world.disk.read "a.json" = .ok "1".toUTF8 := by decide
  refine ⟨present, (replaceFile_intact_iff "a.json" _ "2".toUTF8 world present).1.2 ?_⟩
  decide

/-- Where nothing stands in the way of the backup, there is a point at which the path leads
to nothing. -/
theorem replaceFile_gap :
    let world := World.withFile "1".toUTF8 []
    world.disk.read "a.json" = .ok "1".toUTF8 ∧
      ∃ between ∈ (replaceFile "a.json" "2".toUTF8).run.worlds world,
        between.disk.exists? "a.json" = false ∧
          ¬between.disk.Intact "a.json" "1".toUTF8 "2".toUTF8 := by
  intro world
  decide

end InstrumentBench
