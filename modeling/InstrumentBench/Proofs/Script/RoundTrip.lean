import InstrumentBench.Proofs.Script.Line

/-!
# Scripts read back

The script for a history, read back, sends exactly the commands of the history,
in order.  The lines of the script are read one by one: those at its head and the
empty ones do nothing, those that open resources bind the handles, and with the
handles bound each of the others sends what its entry records.
-/

namespace InstrumentBench

/-- The command that an entry records. -/
def Entry.step (entry : Entry) : Step :=
  ⟨entry.resource, entry.direction, entry.text⟩

namespace Script

/-! ## The lines of a script -/

theorem printable_openLine (index : Nat) (resource : String) :
    Literal.Printable (openLine index resource).toList := by
  have assignment : Literal.Printable Statement.assignment.toList := by decide
  have call : Literal.Printable Statement.openCall.toList := by decide
  have closing : Literal.Printable ")".toList := by decide
  simp only [openLine, Literal.quote, String.toList_append, String.toList_ofList,
    Literal.printable_append]
  exact ⟨⟨⟨⟨printable_handle index, assignment⟩, call⟩, Literal.printable_encode _⟩, closing⟩

theorem printable_sendLine (resources : List String) (entry : Entry) :
    Literal.Printable (sendLine resources entry).toList := by
  have shown : Literal.Printable Statement.printCall.toList := by decide
  have query : Literal.Printable Statement.queryCall.toList := by decide
  have write : Literal.Printable Statement.writeCall.toList := by decide
  have closing : Literal.Printable ")".toList ∧ Literal.Printable "))".toList := by decide
  have literal := Literal.printable_encode entry.text.toList
  rw [sendLine]
  split <;>
    simp only [Literal.quote, String.toList_append, String.toList_ofList,
      Literal.printable_append]
  · exact ⟨⟨⟨⟨shown, printable_handle _⟩, query⟩, literal⟩, closing.2⟩
  · exact ⟨⟨⟨printable_handle _, write⟩, literal⟩, closing.1⟩

/-- No line of a script has a control character. -/
theorem printable_of_mem_lines {entries : List Entry} {line : String}
    (member : line ∈ lines entries) : Literal.Printable line.toList := by
  have fixed : ∀ line ∈ [header, Statement.importLine, "", Statement.managerLine],
      Literal.Printable line.toList := by
    simp only [List.forall_mem_cons]
    decide
  simp only [lines, List.mem_append, List.mem_mapIdx, List.mem_map] at member
  rcases member with ((head | ⟨index, _, rfl⟩) | separating) | ⟨entry, -, rfl⟩
  · exact fixed line head
  · exact printable_openLine index _
  · split at separating
    · cases separating
    · exact fixed line (by simp_all)
  · exact printable_sendLine _ entry

/-- The lines of a script are found again, and an empty one after the last. -/
theorem fields_emit (entries : List Entry) :
    Text.fields '\n' (emit entries).toList = (lines entries).map String.toList ++ [[]] := by
  have text : (emit entries).toList =
      ((lines entries).map String.toList).flatMap (· ++ ['\n']) := by
    simp [emit, String.toList_join, List.flatMap_map]
  rw [text]
  refine Text.fields_flatMap fun piece member => ?_
  obtain ⟨line, inLines, rfl⟩ := List.mem_map.1 member
  exact (printable_of_mem_lines inLines).lineFeed_not_mem

theorem trim_openLine (index : Nat) (resource : String) :
    Text.trim (openLine index resource).toList = (openLine index resource).toList := by
  refine Text.trim_eq_self ?_ ?_
  · simp [openLine, handle_toList]
    decide
  · simp [openLine]
    decide

theorem trim_sendLine (resources : List String) (entry : Entry) :
    Text.trim (sendLine resources entry).toList = (sendLine resources entry).toList := by
  rw [sendLine]
  split
  · refine Text.trim_eq_self ?_ ?_
    · simp [Statement.printCall]
      decide
    · simp
      decide
  · refine Text.trim_eq_self ?_ ?_
    · simp [handle_toList]
      decide
    · simp
      decide

/-! ## Reading the lines -/

variable {line : Nat} {handles : Bindings String}

theorem readFrom_nothing {raw : List Char} (idle : Statement.read (Text.trim raw) = .ok .nothing)
    (rest : List (List Char)) :
    readFrom line handles (raw :: rest) = readFrom (line + 1) handles rest := by
  rw [readFrom, idle]

/-- The handles bound by the lines that open resources, the first of which has a
given index. -/
def openedFrom (handles : Bindings String) (index : Nat) : List String → Bindings String
  | [] => handles
  | resource :: rest => openedFrom (handles.bind (handle index) resource) (index + 1) rest

/-- Opening resources leaves the earlier handles alone. -/
theorem find?_openedFrom_of_lt {index earlier : Nat} (before : earlier < index)
    (resources : List String) :
    (openedFrom handles index resources).find? (handle earlier) =
      handles.find? (handle earlier) := by
  induction resources generalizing handles index with
  | nil => rfl
  | cons resource rest ih =>
    have different : handle index ≠ handle earlier := fun same =>
      absurd (handle_injective same) (by omega)
    rw [openedFrom, ih (by omega), Bindings.find?_bind, if_neg different]

/-- The handle of each resource that was opened is bound to it. -/
theorem find?_openedFrom {resources : List String} {offset : Nat} {resource : String}
    (index : Nat) (opened : resources[offset]? = some resource) :
    (openedFrom handles index resources).find? (handle (index + offset)) = some resource := by
  induction resources generalizing handles index offset with
  | nil => simp at opened
  | cons head rest ih =>
    rw [openedFrom]
    cases offset with
    | zero =>
      obtain rfl : head = resource := by simpa using opened
      rw [find?_openedFrom_of_lt (by omega), Bindings.find?_bind]
      simp
    | succ offset =>
      have later : (openedFrom (handles.bind (handle index) head) (index + 1) rest).find?
          (handle (index + 1 + offset)) = some resource :=
        ih (index + 1) (by simpa using opened)
      rwa [Nat.add_right_comm] at later

/-- Reading the lines that open resources binds their handles. -/
theorem readFrom_openLines (index : Nat) (resources : List String) (rest : List (List Char)) :
    readFrom line handles
        ((resources.mapIdx fun offset => openLine (index + offset)).map String.toList ++ rest) =
      readFrom (line + resources.length) (openedFrom handles index resources) rest := by
  induction resources generalizing line handles index with
  | nil => rfl
  | cons resource others ih =>
    have shifted : (fun offset => openLine (index + (offset + 1))) =
        fun offset => openLine (index + 1 + offset) := by
      funext offset
      rw [Nat.add_assoc, Nat.add_comm 1 offset]
    rw [List.mapIdx_cons, List.map_cons, List.cons_append, readFrom, Nat.add_zero, trim_openLine,
      read_openLine]
    dsimp only
    rw [shifted, ih, List.length_cons, openedFrom, Nat.add_assoc, Nat.add_comm 1]

/-- With the handles of all resources bound, reading the lines that send entries
gives their commands. -/
theorem readFrom_sendLines {resources : List String} (entries : List Entry)
    (bound : ∀ entry ∈ entries,
      handles.find? (handle (resources.idxOf entry.resource)) = some entry.resource) :
    readFrom line handles ((entries.map (sendLine resources)).map String.toList ++ [[]]) =
      .ok (entries.map Entry.step) := by
  induction entries generalizing line with
  | nil => rfl
  | cons entry entries ih =>
    have later : readFrom (line + 1) handles
        ((entries.map (sendLine resources)).map String.toList ++ [[]]) =
          .ok (entries.map Entry.step) :=
      ih fun other member => bound other (List.mem_cons_of_mem entry member)
    rw [List.map_cons, List.map_cons, List.cons_append, readFrom, trim_sendLine, read_sendLine]
    dsimp only
    rw [bound entry List.mem_cons_self, later]
    rfl

/-! ## The round trip -/

theorem mem_firstsFrom {name : String} {seen names : List String} :
    name ∈ firstsFrom seen names ↔ name ∈ names ∧ name ∉ seen := by
  induction names generalizing seen with
  | nil => simp [firstsFrom]
  | cons head rest ih =>
    rw [firstsFrom]
    by_cases same : name = head
    · subst same
      split <;> simp_all
    · split <;> simp_all

theorem mem_resources {entries : List Entry} {entry : Entry} (member : entry ∈ entries) :
    entry.resource ∈ resources entries :=
  mem_firstsFrom.2 ⟨List.mem_map_of_mem member, List.not_mem_nil⟩

/-- Reading the lines of the script for a history gives its commands. -/
theorem readFrom_lines (entries : List Entry) :
    readFrom 1 .empty ((lines entries).map String.toList ++ [[]]) =
      .ok (entries.map Entry.step) := by
  let opened := resources entries
  have bound : ∀ entry ∈ entries,
      (openedFrom .empty 0 opened).find? (handle (opened.idxOf entry.resource)) =
        some entry.resource := by
    intro entry member
    have found : (openedFrom .empty 0 opened).find?
        (handle (0 + opened.idxOf entry.resource)) = some entry.resource :=
      find?_openedFrom 0 (List.getElem?_idxOf (mem_resources member))
    rwa [Nat.zero_add] at found
  have sends : ∀ line, readFrom line (openedFrom .empty 0 opened)
      (((if entries.isEmpty then [] else [""]) ++ entries.map (sendLine opened)).map
        String.toList ++ [[]]) = .ok (entries.map Entry.step) := by
    intro line
    split
    · exact readFrom_sendLines entries bound
    · rw [List.map_append, List.append_assoc, List.map_singleton, List.singleton_append,
        readFrom_nothing (by decide)]
      exact readFrom_sendLines entries bound
  have opens : ∀ line rest, readFrom line .empty
      ((opened.mapIdx fun offset => openLine (0 + offset)).map String.toList ++ rest) =
        readFrom (line + opened.length) (openedFrom .empty 0 opened) rest :=
    fun _ rest => readFrom_openLines 0 opened rest
  simp only [Nat.zero_add] at opens
  have shape : (lines entries).map String.toList ++ [[]] =
      header.toList :: Statement.importLine.toList :: "".toList ::
        Statement.managerLine.toList :: ((opened.mapIdx openLine).map String.toList ++
          (((if entries.isEmpty then [] else [""]) ++ entries.map (sendLine opened)).map
            String.toList ++ [[]])) := by
    simp [lines, opened]
  rw [shape, readFrom_nothing (by decide), readFrom_nothing (by decide),
    readFrom_nothing (by decide), readFrom_nothing (by decide), opens, sends]

/-- The script for a history sends, when it is read back, the commands that the
history records: one for each entry, in order. -/
theorem read_emit (entries : List Entry) :
    read (emit entries) = .ok (entries.map Entry.step) := by
  rw [read, fields_emit, readFrom_lines]

end Script

end InstrumentBench
