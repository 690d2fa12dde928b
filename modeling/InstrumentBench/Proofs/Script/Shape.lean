import InstrumentBench.Proofs.Script.RoundTrip
import Mathlib.Data.Finset.Card
import Mathlib.Data.List.Forall2

/-!
# The shape of exported scripts

An exported script is determined line by line: a head that does nothing, one line for each
resource, an empty line, and one line for each entry (`emit_shape`).  No line has a control
character, whatever the resources and the texts of the history are, so none of them can end its
line or put another statement into the script.
-/

namespace InstrumentBench.Script

/-! ## First appearances -/

/-- The names of a list, each once, as they first appear there. -/
structure FirstAppearances (names distinct : List String) : Prop where
  members : ∀ name, name ∈ distinct ↔ name ∈ names
  inOrder : distinct.Pairwise fun earlier later => names.idxOf earlier < names.idxOf later

/-- What is taken of a list behind a name stands behind that name. -/
theorem idxOf_cons_lt_of_mem {head earlier later : String} {rest : List String}
    (other : earlier ≠ head) (otherLater : later ≠ head)
    (before : rest.idxOf earlier < rest.idxOf later) :
    (head :: rest).idxOf earlier < (head :: rest).idxOf later := by
  rw [List.idxOf_cons_ne rest other.symm, List.idxOf_cons_ne rest otherLater.symm]
  exact Nat.succ_lt_succ before

theorem pairwise_firstsFrom (seen names : List String) :
    (firstsFrom seen names).Pairwise fun earlier later =>
      names.idxOf earlier < names.idxOf later := by
  induction names generalizing seen with
  | nil => exact .nil
  | cons head rest ih =>
    -- Behind `head`, only names other than `head` are taken in both cases.
    have behind : ∀ known, head ∈ known →
        (firstsFrom known rest).Pairwise fun earlier later =>
          (head :: rest).idxOf earlier < (head :: rest).idxOf later := by
      intro known isKnown
      have different : ∀ name ∈ firstsFrom known rest, name ≠ head := by
        rintro name member rfl
        exact (mem_firstsFrom.1 member).2 isKnown
      refine (ih known).imp_of_mem ?_
      intro earlier later isEarlier isLater before
      exact idxOf_cons_lt_of_mem (different earlier isEarlier) (different later isLater) before
    rw [firstsFrom]
    split
    next isKnown => exact behind seen isKnown
    next =>
      rw [List.pairwise_cons]
      refine ⟨?_, behind (head :: seen) List.mem_cons_self⟩
      intro later member
      have other : head ≠ later := by
        rintro rfl
        exact (mem_firstsFrom.1 member).2 List.mem_cons_self
      rw [List.idxOf_cons_self, List.idxOf_cons_ne rest other]
      exact Nat.zero_lt_succ _

theorem firstAppearances_firstsFrom (names : List String) :
    FirstAppearances names (firstsFrom [] names) where
  members name := by simp [mem_firstsFrom]
  inOrder := pairwise_firstsFrom [] names

/-- There are as many first appearances as different names. -/
theorem FirstAppearances.length_eq {names distinct : List String}
    (appearances : FirstAppearances names distinct) :
    distinct.length = names.toFinset.card := by
  have nodup : distinct.Nodup := by
    refine appearances.inOrder.imp ?_
    rintro earlier _ before rfl
    exact Nat.lt_irrefl _ before
  have same : distinct.toFinset = names.toFinset := by
    ext name
    simp [appearances.members name]
  rw [← same, List.toFinset_card_of_nodup nodup]

/-! ## The statements of a script -/

/-- The statement that opens a resource. -/
def opening (index : Nat) (resource : String) : Statement :=
  .opens ("inst_" ++ toString (index + 1)) resource

/-- The statement that sends an entry again. -/
def sending (opened : List String) (entry : Entry) : Statement :=
  .sends ("inst_" ++ toString (opened.idxOf entry.resource + 1)) entry.direction entry.text

/-- The statements of a script, one for each of its lines. -/
def statements (opened : List String) (entries : List Entry) : List Statement :=
  List.replicate 4 .nothing ++ opened.mapIdx opening ++
    (if entries = [] then [] else [.nothing]) ++ entries.map (sending opened)

theorem length_statements (opened : List String) (entries : List Entry) :
    (statements opened entries).length =
      if entries = [] then 4 + opened.length else 5 + opened.length + entries.length := by
  cases entries with
  | nil =>
    simp [statements]
    omega
  | cons entry entries =>
    simp only [statements, reduceIte, List.cons_ne_nil, List.length_append, List.length_replicate,
      List.length_mapIdx, List.length_map, List.length_cons, List.length_nil]
    omega

theorem spells_openLine (index : Nat) (resource : String) :
    Statement.Spells (openLine index resource).toList (opening index resource) :=
  (Statement.spells_iff (trim_openLine index resource)).2 ⟨read_openLine index resource, trivial⟩

theorem spells_sendLine (opened : List String) (entry : Entry) :
    Statement.Spells (sendLine opened entry).toList (sending opened entry) :=
  (Statement.spells_iff (trim_sendLine opened entry)).2
    ⟨read_sendLine opened entry, isIdentifier_handle _⟩

/-- Each line of a script spells its statement. -/
theorem spells_lines (entries : List Entry) :
    List.Forall₂ Statement.Spells ((lines entries).map String.toList)
      (statements (resources entries) entries) := by
  have head : List.Forall₂ Statement.Spells
      ([header, Statement.importLine, "", Statement.managerLine].map String.toList)
      (List.replicate 4 .nothing) :=
    .cons .comment (.cons .imports (.cons .empty (.cons .manager .nil)))
  have opens : List.Forall₂ Statement.Spells
      (((resources entries).mapIdx openLine).map String.toList)
      ((resources entries).mapIdx opening) := by
    rw [List.forall₂_iff_get]
    refine ⟨by simp, ?_⟩
    intro index _ _
    simpa using spells_openLine index _
  have gap : List.Forall₂ Statement.Spells
      ((if entries.isEmpty then [] else [""]).map String.toList)
      (if entries = [] then [] else [.nothing]) := by
    cases entries with
    | nil => exact .nil
    | cons entry entries => exact .cons .empty .nil
  have sends : List.Forall₂ Statement.Spells
      ((entries.map (sendLine (resources entries))).map String.toList)
      (entries.map (sending (resources entries))) := by
    rw [List.map_map, List.forall₂_map_left_iff, List.forall₂_map_right_iff, List.forall₂_same]
    intro entry _
    exact spells_sendLine (resources entries) entry
  rw [lines, statements, List.map_append, List.map_append, List.map_append]
  exact List.rel_append (List.rel_append (List.rel_append head opens) gap) sends

/-- A script consists of lines without control characters, each ended by a line feed.  They spell
its statements one by one: the handles `inst_1`, `inst_2` and so on are opened for the resources
of the history as these first appear there, and then each entry is sent through the handle of its
resource.  So there are four lines for an empty history, and else five more than there are
different resources and entries together. -/
theorem emit_shape (entries : List Entry) :
    let names := entries.map Entry.resource
    ∃ opened written,
      FirstAppearances names opened ∧
      (emit entries).toList = written.flatMap (· ++ ['\n']) ∧
      (∀ line ∈ written, Literal.Printable line) ∧
      List.Forall₂ Statement.Spells written (statements opened entries) ∧
      written.length =
        if entries = [] then 4 else 5 + names.toFinset.card + entries.length := by
  intro names
  have appearances : FirstAppearances names (resources entries) :=
    firstAppearances_firstsFrom names
  have spelled := spells_lines entries
  refine ⟨resources entries, (lines entries).map String.toList, appearances, ?_, ?_, spelled, ?_⟩
  case refine_1 => simp [emit, String.toList_join, List.flatMap_map]
  case refine_2 =>
    rw [List.forall_mem_map]
    exact fun line member => printable_of_mem_lines member
  case refine_3 =>
    rw [spelled.length_eq, length_statements, appearances.length_eq]
    cases entries with
    | nil => rfl
    | cons entry entries => rfl

end InstrumentBench.Script
