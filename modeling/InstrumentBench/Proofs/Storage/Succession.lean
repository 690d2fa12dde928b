import InstrumentBench.Proofs.Storage.Faults
import InstrumentBench.Proofs.Storage.Naming
import InstrumentBench.Proofs.Storage.Replacement
import Mathlib.Logic.Relation

/-!
# Replacing a file again and again

A replacement on a machine that may fail first prepares the new contents beside the path, which
changes nothing else but for directories above it (`Disk.Prepared`), and then moves files.  If it
succeeds, exactly the path and its backup have new contents (`Rewritten.replaced`); if it fails,
the old contents are at the path or are the backup (`spared_of_mayRun`).
`replaceFile_succession` says what is left of any number of replacements that succeed, and of one
that fails.

What a path had before is what stands at the place that its names lead to (`Disk.held`).  A
replacement makes the directories above the path first, so this is what it finds there, also where
the path could not be followed before.
-/

namespace InstrumentBench

open Relation

namespace Disk

variable {path : String} {data : ByteArray}

/-! ## Preparing -/

/-- A later disk has new directories, and may have anything at the place of one path. -/
structure GrowsApart (path : String) (before after : Disk) : Prop
    extends before.KeepsDirectories after where
  grows : ∀ place, before.named path ≠ .ok place → before.GrowsAt after place

theorem GrowsApart.trans {first second third : Disk} (left : first.GrowsApart path second)
    (right : second.GrowsApart path third) : first.GrowsApart path third := by
  refine ⟨left.toKeepsDirectories.trans right.toKeepsDirectories, fun place apart => ?_⟩
  have still : second.named path ≠ .ok place := by rwa [named_congr left.current]
  exact (left.grows place apart).trans (right.grows place still)

theorem Grows.apart {before after : Disk} (grows : before.Grows after)
    (current : after.current = before.current) (path : String) : before.GrowsApart path after :=
  ⟨grows.keepsDirectories current, fun place _ => grows place⟩

theorem GrowsApart.held {before after : Disk} {other : String}
    (apart : before.GrowsApart path after)
    (different : ∀ place, before.named other = .ok place → before.named path ≠ .ok place) :
    after.held other = before.held other := by
  rw [Disk.held, Disk.held, named_congr apart.current]
  cases named : before.named other with
  | error error => rfl
  | ok place => exact (apart.grows place (different place named)).fileAt

/-- What stands at the path does not change with what is at the place of a sibling. -/
theorem GrowsApart.held_path {before after : Disk} {suffix : String} (isSuffix : IsSuffix suffix)
    (apart : before.GrowsApart (Path.sibling path suffix) after) :
    after.held path = before.held path :=
  apart.held fun _ named siblingNamed => ne_of_named_sibling isSuffix named siblingNamed rfl

/-- Writing a file changes nothing at other places. -/
theorem growsApart_put {disk : Disk} {place : Place} {contents : ByteArray}
    (opened : disk.openFile path = .ok (place, contents)) (written : ByteArray) :
    disk.GrowsApart path (disk.put place (.file written)) := by
  have same := sameDirectories_put (free_of_openFile opened) written
  refine ⟨⟨same.current, fun other => (same.standing other).2⟩, fun other apart => .inl ?_⟩
  rw [node?_put]
  split
  next root => rw [root, node?, if_pos rfl]
  split
  next here =>
    rw [here] at apart
    exact absurd (named_of_locate (locate_of_openFile opened)) apart
  next => rfl

theorem growsApart_of_createFile {disk after : Disk} (made : disk.createFile path = .ok after) :
    disk.GrowsApart path after := by
  obtain ⟨⟨place, contents⟩, opened, same⟩ := Outcome.bind_eq_ok.1 made
  cases same
  exact growsApart_put opened _

theorem growsApart_of_appendFile {disk after : Disk}
    (added : disk.appendFile path data = .ok after) : disk.GrowsApart path after := by
  obtain ⟨⟨place, contents⟩, opened, same⟩ := Outcome.bind_eq_ok.1 added
  cases same
  exact growsApart_put opened _

/-- The new contents are beside the path. -/
structure Prepared (path : String) (data : ByteArray) (before after : Disk) : Prop where
  apart : before.GrowsApart (Path.sibling path ".tmp") after
  opens : before.Opens path after
  ready : after.read (Path.sibling path ".tmp") = .ok data

theorem SameDirectories.opens {before after : Disk} (same : before.SameDirectories after)
    (path : String) : before.Opens path after :=
  ⟨same.current, fun place stands => .inl ((same.standing place).1 stands)⟩

theorem prepared_of_appendFile {before opened created after : Disk}
    (grows : before.Grows opened) (opens : before.Opens path opened)
    (made : opened.createFile (Path.sibling path ".tmp") = .ok created)
    (added : created.appendFile (Path.sibling path ".tmp") data = .ok after) :
    before.Prepared path data after := by
  have apart := ((grows.apart opens.current _).trans (growsApart_of_createFile made)).trans
    (growsApart_of_appendFile added)
  obtain ⟨⟨place, contents⟩, opening, same⟩ := Outcome.bind_eq_ok.1 made
  cases same
  obtain ⟨located, slash, -⟩ := openFile_eq_ok.1 opening
  have free := free_of_openFile opening
  have first := sameDirectories_put free ByteArray.empty
  have stands : (opened.put place (.file .empty)).node? place = some (.file .empty) := by
    rw [node?_put, if_neg (ne_nil_of_free free), if_pos rfl]
  have still := first.locate.2 located
  obtain ⟨⟨there, old⟩, opening, same⟩ := Outcome.bind_eq_ok.1 added
  cases same
  rw [openFile_eq_ok.2 ⟨still, slash, .inl stands⟩] at opening
  cases opening
  have filled : (opened.put place (.file .empty)).node? place ≠ some .directory := by
    simp [stands]
  have second := sameDirectories_put filled (ByteArray.empty ++ data)
  refine ⟨apart, (opens.trans (first.opens path)).trans (second.opens path), ?_⟩
  simpa using read_put filled still slash (ByteArray.empty ++ data)

/-! ## Moving -/

/-- Where a path leads, there is a file or nothing. -/
def AbsentOrFile (disk : Disk) (path : String) : Prop :=
  ∀ place, disk.named path = .ok place → disk.node? place ≠ some .directory

/-- Files are the same but at a path and beside it. -/
def Undisturbed (path : String) (before after : Disk) : Prop :=
  ∀ place, (∀ file ∈ [path, Path.sibling path ".tmp", Path.sibling path ".bak"],
    before.named file ≠ .ok place) → after.fileAt place = before.fileAt place

/-- A path has got new contents, and its backup those that were there. -/
structure Replaced (path : String) (data : ByteArray) (before after : Disk) : Prop where
  current : after.current = before.current
  written : after.read path = .ok data
  kept : ∀ old, before.held path = some old → after.read (Path.sibling path ".bak") = .ok old
  untouched : before.held path = none →
    after.held (Path.sibling path ".bak") = before.held (Path.sibling path ".bak")
  cleared : after.exists? (Path.sibling path ".tmp") = false
  undisturbed : before.Undisturbed path after

/-- The contents that a path had are still there or are the backup, and can be read if they could
be read before. -/
structure Spared (path : String) (before after : Disk) : Prop where
  held : ∀ old, before.held path = some old →
    after.held path = some old ∨ after.held (Path.sibling path ".bak") = some old
  readable : ∀ old, before.read path = .ok old →
    after.read path = .ok old ∨ after.read (Path.sibling path ".bak") = .ok old

theorem Undisturbed.refl (path : String) (disk : Disk) : disk.Undisturbed path disk :=
  fun _ _ => rfl

theorem Undisturbed.trans {first second third : Disk} (current : second.current = first.current)
    (left : first.Undisturbed path second) (right : second.Undisturbed path third) :
    first.Undisturbed path third := by
  intro place apart
  refine (right place fun file member => ?_).trans (left place apart)
  rw [named_congr current]
  exact apart file member

theorem GrowsApart.undisturbed {before after : Disk}
    (apart : before.GrowsApart (Path.sibling path ".tmp") after) : before.Undisturbed path after :=
  fun place elsewhere => (apart.grows place (elsewhere _ (by simp))).fileAt

theorem MovedFile.undisturbed {before after : Disk} {origin goal : Place} {contents : ByteArray}
    (moved : before.MovedFile origin goal contents after) {source target : String}
    (start : before.locate source = .ok origin) (finish : before.locate target = .ok goal)
    (sourceBeside : source ∈ [path, Path.sibling path ".tmp", Path.sibling path ".bak"])
    (targetBeside : target ∈ [path, Path.sibling path ".tmp", Path.sibling path ".bak"]) :
    before.Undisturbed path after := by
  intro place elsewhere
  refine fileAt_congr (moved.elsewhere place ?_ ?_)
  · rintro rfl
    exact elsewhere source sourceBeside (named_of_locate start)
  · rintro rfl
    exact elsewhere target targetBeside (named_of_locate finish)

theorem MovedFile.held {before after : Disk} {origin goal : Place} {contents : ByteArray}
    (moved : before.MovedFile origin goal contents after) {other : String}
    (apart : ∀ place, before.named other = .ok place → place ≠ origin ∧ place ≠ goal) :
    after.held other = before.held other := by
  rw [Disk.held, Disk.held, named_congr moved.same.current]
  cases named : before.named other with
  | error error => rfl
  | ok place =>
    obtain ⟨notOrigin, notGoal⟩ := apart place named
    exact fileAt_congr (moved.elsewhere place notOrigin notGoal)

theorem exists?_of_absent {disk : Disk} {place : Place} (located : disk.locate path = .ok place)
    (absent : disk.node? place = none) : disk.exists? path = false := by
  simp [exists?, find, located, absent, bind, Except.bind]

/-- A directory that was made on the way to a path has not been moved to the backup if anything
can still be located beside the path. -/
theorem Prepared.not_directory {before staged middle : Disk} {place beside : Place}
    (prepared : before.Prepared path data staged)
    (free : before.AbsentOrFile path)
    (backedUp : staged.rename path (Path.sibling path ".bak") = .ok middle)
    (located : staged.locate path = .ok place)
    (tmpLocated : middle.locate (Path.sibling path ".tmp") = .ok beside)
    (dots : Path.endsInDots path = false) : staged.node? place ≠ some .directory := by
  intro directory
  have named := named_of_locate located
  obtain ⟨origin, goal, start, finish, -, ⟨_, stands, _⟩ | ⟨-, moved⟩⟩ := rename_eq_ok backedUp
  case inl =>
    rw [located] at start
    cases start
    rw [directory] at stands
    cases stands
  case inr =>
    rw [located] at start
    cases start
    have apart := not_prefix_of_named_sibling isSuffix_bak named (named_of_locate finish)
    rcases moved with rfl | ⟨inside, cleared, which, rfl⟩
    case inl => exact apart List.prefix_rfl
    case inr =>
      cases prepared.opens.opened place directory with
      | inl standing =>
        rw [named_congr prepared.opens.current] at named
        exact free place named standing
      | inr onTheWay =>
        have nonempty : place ≠ [] := by
          rintro rfl
          exact inside List.nil_prefix
        have gone := node?_moveTree_source cleared nonempty apart
        obtain ⟨name, last⟩ := Path.exists_fileName dots
        have current : (cleared.moveTree place goal).current = before.current := by
          rcases which with rfl | rfl <;> exact prepared.opens.current
        rw [directory_of_onTheWay isSuffix_tmp last tmpLocated
          ((onTheWay_congr current).2 onTheWay)] at gone
        cases gone

/-- What is kept before the new contents are moved to the path is a file. -/
theorem Prepared.backedUp {before staged middle after : Disk}
    (prepared : before.Prepared path data staged)
    (free : before.AbsentOrFile path)
    (backedUp : staged.rename path (Path.sibling path ".bak") = .ok middle)
    (moved : middle.rename (Path.sibling path ".tmp") path = .ok after) :
    ∃ place backup old, staged.locate path = .ok place ∧
      staged.node? place = some (.file old) ∧
      staged.locate (Path.sibling path ".bak") = .ok backup ∧
      Path.endsInSlash (Path.sibling path ".bak") = false ∧
      staged.MovedFile place backup old middle := by
  obtain ⟨_, _, tmpLocated, -, dots, -⟩ := rename_eq_ok moved
  obtain ⟨place, backup, start, finish, -, ⟨old, stands, slash, vacant, rfl⟩ | ⟨directory, -⟩⟩ :=
    rename_eq_ok backedUp
  case inl =>
    have apart : backup ≠ place :=
      ne_of_named_sibling isSuffix_bak (named_of_locate start) (named_of_locate finish)
    exact ⟨place, backup, old, start, stands, finish, slash,
      movedFile_put_erase stands vacant apart.symm⟩
  case inr =>
    exact absurd directory (prepared.not_directory free backedUp start tmpLocated dots)

/-- The new contents are moved to the path. -/
theorem movedFile_of_ready {middle after : Disk}
    (ready : middle.read (Path.sibling path ".tmp") = .ok data)
    (moved : middle.rename (Path.sibling path ".tmp") path = .ok after) :
    ∃ place beside, middle.locate path = .ok place ∧ Path.endsInSlash path = false ∧
      middle.locate (Path.sibling path ".tmp") = .ok beside ∧
      middle.MovedFile beside place data after := by
  obtain ⟨beside, place, start, finish, slash, -, moved⟩ := movedFile_of_rename ready moved
  have apart : beside ≠ place :=
    ne_of_named_sibling isSuffix_tmp (named_of_locate finish) (named_of_locate start)
  exact ⟨place, beside, finish, slash, start, moved apart⟩

/-- Where no backup is made, nothing was at the path. -/
theorem Prepared.replaced_of_absent {before staged after : Disk}
    (prepared : before.Prepared path data staged) (absent : staged.exists? path = false)
    (moved : staged.rename (Path.sibling path ".tmp") path = .ok after) :
    before.Replaced path data after := by
  obtain ⟨place, beside, located, slash, tmpLocated, moved⟩ :=
    movedFile_of_ready prepared.ready moved
  have current := prepared.opens.current
  have vacant : before.held path = none := by
    rw [← prepared.apart.held_path isSuffix_tmp]
    cases held : staged.held path with
    | none => rfl
    | some old =>
      rw [held_of_named (named_of_locate located), fileAt_eq_some] at held
      have there := exists?_of_read (read_eq_ok.2 ⟨slash, place, located, held⟩)
      rw [absent] at there
      cases there
  have untouched :
      after.held (Path.sibling path ".bak") = before.held (Path.sibling path ".bak") := by
    rw [moved.held, prepared.apart.held]
    · intro backup named tmpNamed
      exact ne_of_named_siblings isSuffix_bak isSuffix_tmp named tmpNamed (by decide) rfl
    · intro backup named
      exact ⟨ne_of_named_siblings isSuffix_bak isSuffix_tmp named (named_of_locate tmpLocated)
        (by decide), ne_of_named_sibling isSuffix_bak (named_of_locate located) named⟩
  refine ⟨moved.same.current.trans current, moved.read_target located slash, ?_, fun _ => untouched,
    exists?_of_absent (moved.same.locate.2 tmpLocated) moved.gone, ?_⟩
  case refine_1 =>
    intro old held
    rw [vacant] at held
    cases held
  case refine_2 =>
    exact prepared.apart.undisturbed.trans current
      (moved.undisturbed tmpLocated located (by simp) (by simp))

/-- Where a backup is made, it is the file at the path. -/
theorem Prepared.replaced_of_backup {before staged middle after : Disk}
    (prepared : before.Prepared path data staged)
    (free : before.AbsentOrFile path)
    (backedUp : staged.rename path (Path.sibling path ".bak") = .ok middle)
    (moved : middle.rename (Path.sibling path ".tmp") path = .ok after) :
    before.Replaced path data after := by
  obtain ⟨place, backup, old, located, stands, bakLocated, bakSlash, kept⟩ :=
    prepared.backedUp free backedUp moved
  obtain ⟨-, beside, tmpLocated, -⟩ := read_eq_ok.1 prepared.ready
  have named := named_of_locate located
  have tmpNamed := named_of_locate tmpLocated
  have bakNamed := named_of_locate bakLocated
  have tmpApart : beside ≠ place := ne_of_named_sibling isSuffix_tmp named tmpNamed
  have bakApart : backup ≠ place := ne_of_named_sibling isSuffix_bak named bakNamed
  have siblings : beside ≠ backup :=
    ne_of_named_siblings isSuffix_tmp isSuffix_bak tmpNamed bakNamed (by decide)
  have ready := (kept.read_elsewhere tmpLocated tmpApart siblings).2 prepared.ready
  obtain ⟨target, source, finish, slash, start, moved⟩ := movedFile_of_ready ready moved
  rw [kept.same.locate.2 located] at finish
  cases finish
  rw [kept.same.locate.2 tmpLocated] at start
  cases start
  have there := kept.same.locate.2 bakLocated
  have current := kept.same.current.trans prepared.opens.current
  have before : before.held path = some old := by
    rw [← prepared.apart.held_path isSuffix_tmp, held_of_named named, fileAt_eq_some, stands]
  refine ⟨moved.same.current.trans current,
    moved.read_target (kept.same.locate.2 located) slash, ?_, ?_,
    exists?_of_absent (moved.same.locate.2 (kept.same.locate.2 tmpLocated)) moved.gone, ?_⟩
  case refine_1 =>
    intro other held
    rw [before] at held
    cases held
    exact (moved.read_elsewhere there siblings.symm bakApart).2
      (kept.read_target bakLocated bakSlash)
  case refine_2 =>
    intro held
    rw [before] at held
    cases held
  case refine_3 =>
    have first := prepared.apart.undisturbed.trans prepared.opens.current
      (kept.undisturbed located bakLocated (by simp) (by simp))
    exact first.trans current (moved.undisturbed (kept.same.locate.2 tmpLocated)
      (kept.same.locate.2 located) (by simp) (by simp))

/-- Where nothing but the place of the `.tmp` sibling may have changed, the old contents are still
there. -/
theorem GrowsApart.spared {before after : Disk} {suffix : String} (isSuffix : IsSuffix suffix)
    (apart : before.GrowsApart (Path.sibling path suffix) after) : before.Spared path after := by
  have same := apart.held_path isSuffix
  refine ⟨fun old held => .inl (same.trans held), fun old present => .inl ?_⟩
  obtain ⟨slash, place, located, stands⟩ := read_eq_ok.1 present
  have still := locate_of_keepsDirectories apart.toKeepsDirectories located
  rw [held_of_read present, held_of_named (named_of_locate still), fileAt_eq_some] at same
  exact read_eq_ok.2 ⟨slash, place, still, same⟩

/-- The old contents are spared also if the new ones cannot be moved to the path. -/
theorem Prepared.spared {before staged middle : Disk}
    (prepared : before.Prepared path data staged)
    (backedUp : staged.rename path (Path.sibling path ".bak") = .ok middle) :
    before.Spared path middle := by
  have kept : ∀ old, before.held path = some old →
      middle.read (Path.sibling path ".bak") = .ok old := by
    intro old held
    obtain ⟨place, backup, start, finish, -,
      ⟨contents, stands, slash, vacant, rfl⟩ | ⟨stands, -⟩⟩ := rename_eq_ok backedUp
    all_goals
      rw [← prepared.apart.held_path isSuffix_tmp, held_of_named (named_of_locate start),
        fileAt_eq_some, stands] at held
      cases held
    have apart : backup ≠ place :=
      ne_of_named_sibling isSuffix_bak (named_of_locate start) (named_of_locate finish)
    exact (movedFile_put_erase stands vacant apart.symm).read_target finish slash
  exact ⟨fun old held => .inr (held_of_read (kept old held)),
    fun old present => .inr (kept old (held_of_read present))⟩

end Disk

/-! ## Runs -/

/-- Whether a move is answered with an error. -/
def refuses (source target : String) : Sigma Question.Reply → Bool
  | ⟨.rename origin goal, .error _⟩ => origin = source ∧ goal = target
  | _ => false

variable {path : String} {data : ByteArray} {world after : World}
  {trace : List (Sigma Question.Reply)} {result : Except FileError Unit}

theorem mayRun_keepBackup {value : Unit}
    (run : (keepBackup path).MayRun world trace value after) :
    after = world ∧ (world.disk.exists? path = true →
        ∃ answered ∈ trace, refuses path (Path.sibling path ".bak") answered) ∨
      world.disk.rename path (Path.sibling path ".bak") = .ok after.disk := by
  obtain ⟨early, late, there, middle, rfl, first, second⟩ := run.of_bind
  obtain ⟨rfl, rfl⟩ := first.of_reply.1.exists
  cases there : middle.disk.exists? path with
  | false =>
    rw [there] at second
    exact .inl ⟨second.of_pure.2, nofun⟩
  | true =>
    rw [there] at second
    obtain ⟨asked, others, reply, moved, rfl, first, last⟩ := second.of_bind
    obtain ⟨-, rfl⟩ := last.of_pure
    obtain ⟨answered, rfl⟩ := first.of_reply
    rcases answered.rename with ⟨-, done⟩ | ⟨⟨error, rfl⟩, same⟩
    · exact .inr done
    · exact .inl ⟨same, fun _ => ⟨⟨.rename path (Path.sibling path ".bak"), .error error⟩,
        by simp, by simp [refuses]⟩⟩

/-- The two moves, the first of which may be refused. -/
theorem mayRun_exchange (run : (exchange path).run.MayRun world trace result after) :
    ∃ middle : World,
      (middle = world ∧ (world.disk.exists? path = true →
          ∃ answered ∈ trace, refuses path (Path.sibling path ".bak") answered) ∨
        world.disk.rename path (Path.sibling path ".bak") = .ok middle.disk) ∧
      (result = .ok () ∧ middle.disk.rename (Path.sibling path ".tmp") path = .ok after.disk ∨
        (∃ error, result = .error error) ∧ after = middle) := by
  obtain ⟨early, late, value, middle, rfl, first, second⟩ := Attempt.mayRun_lift_bind run
  obtain ⟨reply, asked, rfl⟩ := Attempt.mayRun_io second
  refine ⟨middle, ?_, ?_⟩
  case refine_1 =>
    refine (mayRun_keepBackup first).imp_left fun kept => ⟨kept.1, fun there => ?_⟩
    obtain ⟨answered, member, isRefused⟩ := kept.2 there
    exact ⟨answered, List.mem_append_left late member, isRefused⟩
  case refine_2 =>
    rcases asked.of_reply.1.rename with ⟨rfl, done⟩ | ⟨⟨error, rfl⟩, rfl⟩
    · exact .inl ⟨rfl, done⟩
    · exact .inr ⟨⟨.io error, rfl⟩, rfl⟩

/-- A run fails before anything is moved, or has prepared the new contents when it comes to the
moves. -/
def FailsOrMoves (path : String) (data : ByteArray) (before : Disk)
    (trace : List (Sigma Question.Reply)) (result : Except FileError Unit) (after : World) : Prop :=
  (∃ error, result = .error error) ∧
      before.GrowsApart (Path.sibling path ".tmp") after.disk ∨
    ∃ late ready, late ⊆ trace ∧ before.Prepared path data ready.disk ∧
      (exchange path).run.MayRun ready late result after

theorem FailsOrMoves.earlier {before : Disk}
    (outcome : FailsOrMoves path data before trace result after)
    (early : List (Sigma Question.Reply)) :
    FailsOrMoves path data before (early ++ trace) result after := by
  refine outcome.imp_right ?_
  rintro ⟨late, ready, within, rest⟩
  exact ⟨late, ready, List.subset_append_of_subset_right early within, rest⟩

theorem mayRun_sync {before : Disk} (prepared : before.Prepared path data world.disk)
    (run : (Attempt.io (.reply (.syncFile (Path.sibling path ".tmp"))) >>= fun _ =>
      exchange path).run.MayRun world trace result after) :
    FailsOrMoves path data before trace result after := by
  obtain ⟨early, late, reply, synced, rfl, asked, rest⟩ := Attempt.mayRun_io_bind run
  obtain rfl := asked.of_reply.1.syncFile
  rcases rest with ⟨-, moves⟩ | ⟨error, -, rfl, rfl⟩
  · exact .inr ⟨late, _, List.subset_append_right early late, prepared, moves⟩
  · exact .inl ⟨⟨_, rfl⟩, prepared.apart⟩

theorem mayRun_write {before opened : Disk} (grows : before.Grows opened)
    (opens : before.Opens path opened)
    (made : opened.createFile (Path.sibling path ".tmp") = .ok world.disk)
    (run : (Attempt.io (.reply (.writeFile (Path.sibling path ".tmp") data)) >>= fun _ =>
      .io (.reply (.syncFile (Path.sibling path ".tmp"))) >>= fun _ =>
      exchange path).run.MayRun world trace result after) :
    FailsOrMoves path data before trace result after := by
  have empty := (grows.apart opens.current _).trans (Disk.growsApart_of_createFile made)
  obtain ⟨early, late, reply, written, rfl, asked, rest⟩ := Attempt.mayRun_io_bind run
  rcases asked.of_reply.1.writeFile with ⟨rfl, added⟩ | ⟨⟨error, rfl⟩, cut⟩
  case inl =>
    have prepared := Disk.prepared_of_appendFile grows opens made added
    exact (mayRun_sync prepared (rest.resolve_right (by simp)).2).earlier early
  case inr =>
    obtain ⟨error, -, rfl, rfl⟩ := rest.resolve_left (by simp)
    refine .inl ⟨⟨_, rfl⟩, ?_⟩
    rcases cut with rfl | ⟨part, added⟩
    · exact empty
    · exact empty.trans (Disk.growsApart_of_appendFile added)

theorem mayRun_stage {before : Disk} (grows : before.Grows world.disk)
    (opens : before.Opens path world.disk)
    (run : (stage path data).run.MayRun world trace result after) :
    FailsOrMoves path data before trace result after := by
  obtain ⟨early, late, reply, created, rfl, asked, rest⟩ := Attempt.mayRun_io_bind run
  rcases asked.of_reply.1.createFile with ⟨rfl, made⟩ | ⟨⟨error, rfl⟩, rfl⟩
  case inl => exact (mayRun_write grows opens made (rest.resolve_right (by simp)).2).earlier early
  case inr =>
    obtain ⟨error, -, rfl, rfl⟩ := rest.resolve_left (by simp)
    exact .inl ⟨⟨_, rfl⟩, grows.apart opens.current _⟩

/-- Directories are made above the path, and then the new contents are prepared. -/
theorem mayRun_replaceFile (run : (replaceFile path data).run.MayRun world trace result after) :
    FailsOrMoves path data world.disk trace result after := by
  rw [replaceFile_eq] at run
  rcases makeParent_cases path with none | ⟨parent, isParent, some⟩
  case inl =>
    rw [none] at run
    exact mayRun_stage (.refl world.disk) (.refl path world.disk) run
  case inr =>
    rw [some] at run
    obtain ⟨early, late, reply, opened, rfl, asked, rest⟩ := Attempt.mayRun_io_bind run
    obtain ⟨grows, current, made⟩ := asked.of_reply.1.makeDirectories
    rcases rest with ⟨rfl, staging⟩ | ⟨error, -, rfl, rfl⟩
    case inl =>
      have opens : world.disk.Opens path opened.disk := by
        rw [made rfl]
        exact Disk.opens_makeDirectories world.disk isParent
      exact (mayRun_stage grows opens staging).earlier early
    case inr => exact .inl ⟨⟨_, rfl⟩, grows.apart current _⟩

/-! ## Successions -/

/-- A replacement that succeeds, with no refusal to move a file at the path to the backup. -/
def Rewritten (path : String) (data : ByteArray) (before after : World) : Prop :=
  ∃ trace, (replaceFile path data).run.MayRun before trace (.ok ()) after ∧
    ∀ answered ∈ trace, ¬refuses path (Path.sibling path ".bak") answered

/-- Where nothing fails and the disk refuses nothing, a replacement succeeds. -/
theorem rewritten_of_run (done : ((replaceFile path data).run.run world).1 = .ok ())
    (granted : ∀ answered ∈ (replaceFile path data).run.replies world,
      ¬refuses path (Path.sibling path ".bak") answered) :
    Rewritten path data world ((replaceFile path data).run.run world).2 := by
  have run := (replaceFile path data).run.mayRun_run world
  rw [done] at run
  exact ⟨_, run, granted⟩

/-- Where no directory stands at a path, a replacement that succeeds leaves the new contents there
and those before as the backup. -/
theorem Rewritten.replaced {before : World} (rewritten : Rewritten path data before after)
    (free : before.disk.AbsentOrFile path) :
    before.disk.Replaced path data after.disk := by
  obtain ⟨trace, run, granted⟩ := rewritten
  obtain ⟨late, ready, within, prepared, run⟩ := (mayRun_replaceFile run).resolve_left (by simp)
  obtain ⟨middle, kept, moved⟩ := mayRun_exchange run
  obtain ⟨-, moved⟩ := moved.resolve_right (by simp)
  rcases kept with ⟨rfl, refused⟩ | backedUp
  case inl =>
    refine prepared.replaced_of_absent ?_ moved
    by_contra there
    obtain ⟨answered, member, isRefused⟩ := refused (by simpa using there)
    exact granted answered (within member) isRefused
  case inr => exact prepared.replaced_of_backup free backedUp moved

/-- The new contents are a file. -/
theorem Disk.Replaced.absentOrFile {before after : Disk}
    (replaced : before.Replaced path data after) : after.AbsentOrFile path := by
  intro place named
  obtain ⟨other, there, stands⟩ := Disk.held_eq_some.1 (Disk.held_of_read replaced.written)
  rw [named] at there
  cases there
  rw [stands]
  nofun

/-- A replacement that fails leaves the contents that the path had. -/
theorem spared_of_mayRun {error : FileError}
    (run : (replaceFile path data).run.MayRun world trace (.error error) after) :
    world.disk.Spared path after.disk := by
  rcases mayRun_replaceFile run with ⟨-, apart⟩ | ⟨late, ready, -, prepared, run⟩
  case inl => exact apart.spared Disk.isSuffix_tmp
  case inr =>
    obtain ⟨middle, kept, moved⟩ := mayRun_exchange run
    obtain ⟨-, rfl⟩ := moved.resolve_left (by simp)
    rcases kept with ⟨rfl, -⟩ | backedUp
    · exact prepared.apart.spared Disk.isSuffix_tmp
    · exact prepared.spared backedUp

/-- Any number of replacements that succeed leave a path free of directories and the other files
as they were. -/
theorem undisturbed_of_rewritten {before : World}
    (free : world.disk.AbsentOrFile path)
    (runs : ReflTransGen (fun earlier later => ∃ data, Rewritten path data earlier later)
      world before) :
    before.disk.current = world.disk.current ∧ world.disk.Undisturbed path before.disk ∧
      before.disk.AbsentOrFile path := by
  induction runs with
  | refl => exact ⟨rfl, .refl path world.disk, free⟩
  | tail _ step ih =>
    obtain ⟨current, undisturbed, free⟩ := ih
    obtain ⟨data, rewritten⟩ := step
    have replaced := rewritten.replaced free
    exact ⟨replaced.current.trans current, undisturbed.trans current replaced.undisturbed,
      replaced.absentOrFile⟩

/-- Where a path leads to a file or to nothing, any number of replacements that succeed leave the
last contents there, those before as the backup, nothing as the `.tmp` sibling, and all other
files as they were.  One that fails, at whichever of its questions, leaves the contents that the
path had there or as the backup. -/
theorem replaceFile_succession (path : String) (world : World)
    (free : world.disk.AbsentOrFile path) :
    (∀ before data after,
      ReflTransGen (fun earlier later => ∃ data, Rewritten path data earlier later) world before →
      Rewritten path data before after →
        before.disk.Replaced path data after.disk ∧ world.disk.Undisturbed path after.disk) ∧
      ∀ data trace error after,
        (replaceFile path data).run.MayRun world trace (.error error) after →
          world.disk.Spared path after.disk := by
  refine ⟨fun before data after runs rewritten => ?_, fun _ _ _ _ => spared_of_mayRun⟩
  obtain ⟨current, undisturbed, stillFree⟩ := undisturbed_of_rewritten free runs
  have replaced := rewritten.replaced stillFree
  exact ⟨replaced, undisturbed.trans current replaced.undisturbed⟩

/-- A file is replaced twice, and then a directory stands where the new contents should be
prepared. -/
theorem replaceFile_succession_twice :
    let world := World.withFile "1".toUTF8 []
    let once := ((replaceFile "a.json" "2".toUTF8).run.run world).2
    let twice := ((replaceFile "a.json" "3".toUTF8).run.run once).2
    let blocked := World.withFile "1".toUTF8 [(["a.json.tmp"], .directory)]
    world.disk.AbsentOrFile "a.json" ∧
      Rewritten "a.json" "2".toUTF8 world once ∧ Rewritten "a.json" "3".toUTF8 once twice ∧
      once.disk.Replaced "a.json" "3".toUTF8 twice.disk ∧
      world.disk.Undisturbed "a.json" twice.disk ∧
      ((replaceFile "a.json" "2".toUTF8).run.run blocked).1 = .error (.io .isADirectory) ∧
      blocked.disk.Spared "a.json" ((replaceFile "a.json" "2".toUTF8).run.run blocked).2.disk := by
  intro world once twice blocked
  have free : ∀ others, (World.withFile "1".toUTF8 others).disk.AbsentOrFile "a.json" := by
    intro others place named
    have there : Disk.follow [] (Path.pieces "a.json") = .ok ["a.json"] := by decide
    cases there.symm.trans named
    nofun
  have first : Rewritten "a.json" "2".toUTF8 world once :=
    rewritten_of_run (by decide) (by decide)
  have second : Rewritten "a.json" "3".toUTF8 once twice :=
    rewritten_of_run (by decide) (by decide)
  have failed : ((replaceFile "a.json" "2".toUTF8).run.run blocked).1 =
      .error (.io .isADirectory) := by decide
  have run := Action.mayRun_run (replaceFile "a.json" "2".toUTF8).run blocked
  rw [failed] at run
  obtain ⟨replaced, undisturbed⟩ := (replaceFile_succession "a.json" world (free [])).1 once _ twice
    (.single ⟨_, first⟩) second
  exact ⟨free [], first, second, replaced, undisturbed, failed,
    (replaceFile_succession "a.json" blocked (free _)).2 _ _ _ _ run⟩

end InstrumentBench
