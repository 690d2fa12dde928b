import InstrumentBench.History.Recorder
import Mathlib.Data.List.Chain
import Mathlib.Data.List.DropRight

/-!
# Recording

A recorder is used in three ways: entries are appended as they are, commands are recorded with the
clock, and the record is cleared.  Whatever the clock shows at each reading, the record holds one
entry for each use since the last clearing, in order (`recorded_run`).  An appended entry may carry
any stamp at all, so only the stamps of recorded entries are tied to what stands before them.

The induction is on the uses, the last one first: what a use adds depends on the entry before it
only, and that is the last one of the record so far.
-/

namespace InstrumentBench.Recorder

/-- One use of a recorder.  A command is recorded at some reading `now` of the clock. -/
inductive Use where
  | append (entry : Entry)
  | record (now : Nat) (direction : Direction) (resource text : String)
      (response : Option String)
  | clear

namespace Use

def clears : Use → Bool
  | clear => true
  | _ => false

def records : Use → Bool
  | record .. => true
  | _ => false

/-- The uses since the last clearing, or all of them. -/
def sinceClear (uses : List Use) : List Use :=
  uses.rtakeWhile (!·.clears)

theorem sinceClear_concat (uses : List Use) (use : Use) :
    sinceClear (uses ++ [use]) = if use.clears then [] else sinceClear uses ++ [use] := by
  rw [sinceClear, List.rtakeWhile_concat]
  cases use.clears <;> rfl

end Use

/-- The recorder after a use. -/
def after (recorder : Recorder) : Use → Recorder
  | .append entry => recorder.append entry
  | .record now direction resource text response =>
    (recorder.record now direction resource text response).2
  | .clear => .empty

/-- The recorder after uses, first to last, of a new one. -/
def run (uses : List Use) : Recorder :=
  uses.foldl after .empty

theorem run_concat (uses : List Use) (use : Use) :
    run (uses ++ [use]) = (run uses).after use :=
  List.foldl_concat ..

/-- What a use adds behind the entry before it, if there is one. -/
inductive Adds (previous : Option Entry) : Use → Entry → Prop where
  | append (entry : Entry) : Adds previous (.append entry) entry
  | record {now millis : Nat} {direction : Direction} {resource text : String}
      {response : Option String} (notBefore : ∀ earlier ∈ previous, earlier.millis ≤ millis)
      (stamp : millis = now ∨ ∃ earlier ∈ previous, millis = earlier.millis) :
      Adds previous (.record now direction resource text response)
        ⟨millis, direction, resource, text, response⟩

/-- What uses add, one entry each, behind one another. -/
inductive AddsAll : List Use → List Entry → Prop where
  | nil : AddsAll [] []
  | concat {uses : List Use} {use : Use} {entries : List Entry} {entry : Entry}
      (earlier : AddsAll uses entries) (last : Adds entries.getLast? use entry) :
      AddsAll (uses ++ [use]) (entries ++ [entry])

/-- A recorded entry is stamped with what the clock shows, unless the entry before it has a later
stamp. -/
theorem adds_stamped (recorder : Recorder) (now : Nat) (direction : Direction)
    (resource text : String) (response : Option String) :
    Adds recorder.entries.getLast? (.record now direction resource text response)
      (recorder.stamped now direction resource text response) := by
  rw [stamped, lastMillis]
  cases recorder.entries.getLast? with
  | none =>
    apply Adds.record
    · intro earlier member
      cases member
    · exact .inl (Nat.max_zero now)
  | some previous =>
    apply Adds.record
    · intro earlier member
      cases member
      exact Nat.le_max_right now previous.millis
    · cases Nat.le_total now previous.millis with
      | inl behind => exact .inr ⟨previous, rfl, Nat.max_eq_right behind⟩
      | inr ahead => exact .inl (Nat.max_eq_left ahead)

/-- A use that does not clear the record adds one entry at its end. -/
theorem entries_after (recorder : Recorder) {use : Use} (keeps : use.clears = false) :
    ∃ entry, (recorder.after use).entries = recorder.entries ++ [entry] ∧
      Adds recorder.entries.getLast? use entry := by
  cases use with
  | append entry => exact ⟨entry, rfl, .append entry⟩
  | record now direction resource text response =>
    exact ⟨_, rfl, adds_stamped recorder now direction resource text response⟩
  | clear => cases keeps

/-- The record holds what the uses since the last clearing added. -/
theorem addsAll_run (uses : List Use) : AddsAll (Use.sinceClear uses) (run uses).entries := by
  induction uses using List.reverseRecOn with
  | nil => exact .nil
  | append_singleton uses use ih =>
    rw [Use.sinceClear_concat, run_concat]
    cases keeps : use.clears with
    | true =>
      cases use with
      | clear => exact .nil
      | append entry => cases keeps
      | record now direction resource text response => cases keeps
    | false =>
      obtain ⟨entry, entries, added⟩ := entries_after (run uses) keeps
      rw [entries]
      exact .concat ih added

/-- Entries that were all recorded are stamped in order. -/
theorem AddsAll.isChain_millis {uses : List Use} {entries : List Entry}
    (added : AddsAll uses entries) (recorded : ∀ use ∈ uses, use.records) :
    (entries.map Entry.millis).IsChain (· ≤ ·) := by
  induction added with
  | nil => exact .nil
  | @concat uses use entries entry earlier last ih =>
    have inOrder := ih fun other member => recorded other (List.mem_append_left [use] member)
    have records := recorded use (List.mem_append_right uses List.mem_cons_self)
    rw [List.map_append, List.map_singleton, List.isChain_append]
    refine ⟨inOrder, .singleton entry.millis, ?_⟩
    intro previous isLast next isNext
    cases isNext
    rw [List.getLast?_map] at isLast
    obtain ⟨before, isBefore, rfl⟩ := Option.map_eq_some_iff.1 isLast
    cases last with
    | append => cases records
    | record notBefore => exact notBefore before isBefore

/-- The record holds one entry for each use since the last clearing, in order: an appended one as
it is, and for a command what was sent, stamped no earlier than the entry before it and either as
the clock showed or as that entry.  If all of them were recorded, the stamps never decrease. -/
theorem recorded_run (uses : List Use) :
    AddsAll (Use.sinceClear uses) (run uses).entries ∧
      ((∀ use ∈ Use.sinceClear uses, use.records) →
        ((run uses).entries.map Entry.millis).Pairwise (· ≤ ·)) := by
  have added := addsAll_run uses
  refine ⟨added, ?_⟩
  intro recorded
  exact List.isChain_iff_pairwise.1 (added.isChain_millis recorded)

/-- A late stamp is forgotten when the record is cleared, and then the clock may go back. -/
theorem recorded_run_clock_back :
    let uses : List Use := [.append ⟨9, .set, "psu", "*RST", none⟩, .clear,
      .record 5 .set "psu" "OUTP ON" none, .record 3 .get "dmm" "READ?" (some "1")]
    (∀ use ∈ Use.sinceClear uses, use.records) ∧
      (run uses).entries.map Entry.millis = [5, 5] ∧
      ((run uses).entries.map Entry.millis).Pairwise (· ≤ ·) := by
  intro uses
  have recorded : ∀ use ∈ Use.sinceClear uses, use.records := by
    simp [uses, Use.sinceClear, List.rtakeWhile, Use.clears, Use.records]
  exact ⟨recorded, rfl, (recorded_run uses).2 recorded⟩

end InstrumentBench.Recorder
