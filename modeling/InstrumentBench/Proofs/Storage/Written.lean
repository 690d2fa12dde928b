import InstrumentBench.Proofs.Storage.Succession

/-!
# What a replacement that succeeds has written

A replacement that succeeds leaves the new contents at the path, whatever stood there before
(`written_of_mayRun`): nothing, a file, or a directory, which then becomes the backup.
-/

namespace InstrumentBench

variable {path : String} {data : ByteArray}

namespace Disk

/-- Moving something from the path to the backup leaves the new contents beside the path, if they
can be moved from there afterwards. -/
theorem Prepared.still_ready {before staged middle after : Disk}
    (prepared : before.Prepared path data staged)
    (backedUp : staged.rename path (Path.sibling path ".bak") = .ok middle)
    (moved : middle.rename (Path.sibling path ".tmp") path = .ok after) :
    middle.read (Path.sibling path ".tmp") = .ok data := by
  obtain ⟨slash, beside, tmpLocated, holds⟩ := read_eq_ok.1 prepared.ready
  obtain ⟨place, backup, located, bakLocated, -, kept⟩ := rename_eq_ok backedUp
  have named := named_of_locate located
  have tmpNamed := named_of_locate tmpLocated
  have bakNamed := named_of_locate bakLocated
  rcases kept with ⟨old, stands, -, free, rfl⟩ | ⟨-, same | ⟨-, cleared, which, rfl⟩⟩
  case inl =>
    have apart : backup ≠ place := ne_of_named_sibling isSuffix_bak named bakNamed
    exact ((movedFile_put_erase stands free apart.symm).read_elsewhere tmpLocated
      (ne_of_named_sibling isSuffix_tmp named tmpNamed)
      (ne_of_named_siblings isSuffix_tmp isSuffix_bak tmpNamed bakNamed (by decide))).2
      prepared.ready
  case inr.inl => exact absurd same.symm (ne_of_named_sibling isSuffix_bak named bakNamed)
  case inr.inr =>
    -- What stands beside the path is not below the directory that is moved, nor is it the backup.
    obtain ⟨there, -, start, -, dots, -⟩ := rename_eq_ok moved
    obtain ⟨name, last⟩ := Path.exists_fileName dots
    have current : (cleared.moveTree place backup).current = staged.current := by
      rcases which with rfl | rfl <;> rfl
    have same : there = beside := by
      have found := named_of_locate start
      rw [named_congr current, tmpNamed] at found
      exact (Except.ok.inj found).symm
    have apart : beside ≠ backup :=
      ne_of_named_siblings isSuffix_tmp isSuffix_bak tmpNamed bakNamed (by decide)
    have free : staged.node? beside ≠ some .directory := by simp [holds]
    have uncovered : cleared.node? beside = staged.node? beside := by
      rcases which with rfl | rfl
      · rfl
      · rw [node?_erase, if_neg (ne_nil_of_free free), if_neg apart]
    refine read_eq_ok.2 ⟨slash, beside, same ▸ start, ?_⟩
    rw [node?_moveTree_apart cleared (not_prefix_named_sibling isSuffix_tmp last named tmpNamed)
      (not_prefix_of_named_siblings isSuffix_bak isSuffix_tmp bakNamed tmpNamed (by decide)),
      uncovered, holds]

end Disk

/-- A replacement that succeeds leaves the new contents at the path. -/
theorem written_of_mayRun {world after : World} {trace : List (Sigma Question.Reply)}
    (run : (replaceFile path data).run.MayRun world trace (.ok ()) after) :
    after.disk.read path = .ok data := by
  obtain ⟨late, ready, -, prepared, run⟩ := (mayRun_replaceFile run).resolve_left (by simp)
  obtain ⟨middle, kept, moved⟩ := mayRun_exchange run
  obtain ⟨-, moved⟩ := moved.resolve_right (by simp)
  have ready : middle.disk.read (Path.sibling path ".tmp") = .ok data := by
    rcases kept with ⟨rfl, -⟩ | backedUp
    · exact prepared.ready
    · exact prepared.still_ready backedUp moved
  obtain ⟨place, beside, located, slash, -, moved⟩ := Disk.movedFile_of_ready ready moved
  exact moved.read_target located slash

end InstrumentBench
