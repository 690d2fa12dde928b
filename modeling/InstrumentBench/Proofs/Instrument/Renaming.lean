import InstrumentBench.Proofs.Instrument.Nicknames
import InstrumentBench.Proofs.Text.Fields
import Mathlib.Data.List.Forall2

/-!
# Which instrument a nickname is given to

A nickname goes to the first instrument with the identity that is asked for, which can be found
by it from then on.  Any other instrument that went by the nickname goes by none.  A blank
nickname only takes away the one that the instrument had.

`rename_of_first` says what becomes of the list, and `setNickname?_first` what that means for
all who are in it.
-/

namespace InstrumentBench

/-- Two identities have the same vendor, model and serial number, blanks around them and the
case of letters apart. -/
def Identity.Alike (first second : Identity) : Prop :=
  sameName first.vendor second.vendor ∧ sameName first.model second.model ∧
    sameName first.serial second.serial

theorem Identity.matchesName_eq_true {first second : Identity} :
    first.matchesName second ↔ first.Alike second := by
  simp only [matchesName, Alike, Bool.and_eq_true, and_assoc]

/-! ## Names that are the same -/

theorem sameName_eq_true {first second : String} :
    sameName first second ↔
      Text.lowercased (Text.trimmed first) = Text.lowercased (Text.trimmed second) := by
  rw [sameName, decide_eq_true_eq]

/-- Blanks around a name do not matter. -/
theorem sameName_trimmed (first second : String) :
    sameName first (Text.trimmed second) = sameName first second := by
  have again : Text.trimmed (Text.trimmed second) = Text.trimmed second := by
    rw [Text.trimmed, Text.toList_trimmed, Text.trim_trim, ← Text.trimmed]
  rw [sameName, sameName, again]

/-- Only blank names are the same as a blank one. -/
theorem allBlank_of_sameName {first second : String} (same : sameName first second)
    (blank : Text.allBlank second) : Text.allBlank first := by
  rw [sameName_eq_true, Text.trimmed_eq_empty.2 blank, Text.lowercased_eq_empty.2 rfl] at same
  exact Text.trimmed_eq_empty.1 (Text.lowercased_eq_empty.1 same)

namespace Instrument

theorem answersTo_eq_true {instrument : Instrument} {name : String} :
    instrument.answersTo name ↔ ∃ own, instrument.nickname = some own ∧ sameName own name := by
  cases named : instrument.nickname with
  | none => simp [answersTo, named]
  | some own => simp [answersTo, named]

/-- Who goes by a name, goes by every name that is the same. -/
theorem answersTo_congr {name other : String} (same : sameName name other)
    (instrument : Instrument) : instrument.answersTo name = instrument.answersTo other := by
  rw [sameName_eq_true] at same
  rw [Bool.eq_iff_iff, answersTo_eq_true, answersTo_eq_true]
  simp only [sameName_eq_true, same]

theorem answersTo_trimmed (name : String) (instrument : Instrument) :
    instrument.answersTo (Text.trimmed name) = instrument.answersTo name := by
  rw [Bool.eq_iff_iff, answersTo_eq_true, answersTo_eq_true]
  simp only [sameName_trimmed]

/-- What becomes of an instrument when another one is given a nickname: it loses its own if that
is the same, blanks around it and the case of letters apart, and is left alone otherwise. -/
inductive Spared (nickname : String) (old : Instrument) : Instrument → Prop where
  | lost {own : String} (named : old.nickname = some own) (same : sameName own nickname) :
      Spared nickname old { old with nickname := none }
  | kept (different : ∀ own, old.nickname = some own → ¬sameName own nickname) :
      Spared nickname old old

/-- The instrument with a nickname that it is given; a blank one is none. -/
def renamed (nickname : String) (instrument : Instrument) : Instrument :=
  { instrument with
    nickname := if Text.allBlank nickname then none else some (Text.trimmed nickname) }

theorem renamed_eq (nickname : String) (instrument : Instrument) :
    instrument.renamed nickname = { instrument with
      nickname := if Text.trimmed nickname = "" then none else some (Text.trimmed nickname) } := by
  by_cases blank : Text.allBlank nickname
  · rw [renamed, if_pos blank, if_pos (Text.trimmed_eq_empty.2 blank)]
  · rw [renamed, if_neg blank, if_neg fun empty => blank (Text.trimmed_eq_empty.1 empty)]

/-- What a nickname has no part in. -/
def particulars (instrument : Instrument) : String × DeviceKind × Identity :=
  (instrument.resource, instrument.kind, instrument.identity)

theorem spared_released (nickname : String) (instrument : Instrument) :
    Spared nickname instrument (Registry.released (Text.trimmed nickname) instrument) := by
  rw [Registry.released, answersTo_trimmed]
  split
  next answers =>
    obtain ⟨own, named, same⟩ := answersTo_eq_true.1 answers
    exact .lost named same
  next silent =>
    refine .kept fun own named same => silent ?_
    exact answersTo_eq_true.2 ⟨own, named, same⟩

namespace Spared

variable {nickname : String} {old new : Instrument}

theorem particulars (spared : Spared nickname old new) : new.particulars = old.particulars := by
  cases spared <;> rfl

theorem not_answersTo (spared : Spared nickname old new) : ¬new.answersTo nickname := by
  rw [answersTo_eq_true]
  cases spared with
  | lost => rintro ⟨own, ⟨⟩, -⟩
  | kept different =>
    rintro ⟨own, named, same⟩
    exact different own named same

/-- A blank nickname takes none away that is not blank. -/
theorem nickname_of_blank (spared : Spared nickname old new) (blank : Text.allBlank nickname)
    {own : String} (named : old.nickname = some own) (visible : ¬Text.allBlank own) :
    new.nickname = some own := by
  cases spared with
  | lost had same =>
    rw [named] at had
    cases had
    exact absurd (allBlank_of_sameName same blank) visible
  | kept => exact named

end Spared

end Instrument

namespace Registry

open Instrument

variable {registry after : Registry} {nickname : String} {identity : Identity}
  {before rest : List Instrument} {target : Instrument}

/-- The first instrument with the identity is renamed, and the others are spared. -/
theorem rename_of_first (found : target.identity.Alike identity)
    (first : ∀ other ∈ before, ¬other.identity.Alike identity) :
    rename (Text.trimmed nickname) identity false (before ++ target :: rest) =
      before.map (released (Text.trimmed nickname)) ++
        target.renamed nickname :: rest.map (released (Text.trimmed nickname)) := by
  induction before with
  | nil =>
    rw [List.nil_append, rename, Bool.not_false, Bool.true_and,
      if_pos (Identity.matchesName_eq_true.2 found), rename_bound, renamed_eq]
    rfl
  | cons head before ih =>
    obtain ⟨different, first⟩ := List.forall_mem_cons.1 first
    rw [List.cons_append, rename, Bool.not_false, Bool.true_and,
      if_neg fun same => different (Identity.matchesName_eq_true.1 same), ih first]
    rfl

theorem knows_eq_true :
    registry.knows identity ↔
      ∃ instrument ∈ registry.instruments, instrument.identity.Alike identity := by
  simp only [knows, List.any_eq_true, Identity.matchesName_eq_true]

/-- Among instruments there is a first one with the identity, if there is one. -/
theorem exists_first {instruments : List Instrument}
    (known : ∃ instrument ∈ instruments, instrument.identity.Alike identity) :
    ∃ before target rest, instruments = before ++ target :: rest ∧
      target.identity.Alike identity ∧ ∀ other ∈ before, ¬other.identity.Alike identity := by
  obtain ⟨instrument, member, alike⟩ := known
  have found : (instruments.find? (·.identity.matchesName identity)).isSome :=
    List.find?_isSome.2 ⟨instrument, member, Identity.matchesName_eq_true.2 alike⟩
  obtain ⟨target, found⟩ := Option.isSome_iff_exists.1 found
  obtain ⟨same, before, rest, whole, first⟩ := List.find?_eq_some_iff_append.1 found
  refine ⟨before, target, rest, whole, Identity.matchesName_eq_true.1 same, fun other earlier => ?_⟩
  rw [← Identity.matchesName_eq_true]
  simpa using first other earlier

/-- An instrument that goes by a name, and none before it, is found by the name. -/
theorem find?_of_first {name : String}
    (whole : registry.instruments = before ++ target :: rest) (found : target.answersTo name)
    (first : ∀ other ∈ before, ¬other.answersTo name) : registry.find? name = some target := by
  have lookedUp : registry.instruments.find? (·.answersTo (Text.trimmed name)) = some target := by
    simp only [answersTo_trimmed]
    rw [whole]
    refine List.find?_eq_some_iff_append.2 ⟨found, before, rest, rfl, fun other earlier => ?_⟩
    simpa using first other earlier
  rw [find?, lookedUp]
  rfl

/-- What giving a nickname does: the first instrument with the identity is renamed, the others are
spared, and the nickname, however it is spelled, leads to the one renamed. -/
structure Renames (registry : Registry) (nickname : String) (identity : Identity)
    (after : Registry) (before : List Instrument) (target : Instrument)
    (rest : List Instrument) : Prop where
  whole : registry.instruments = before ++ target :: rest
  found : target.identity.Alike identity
  first : ∀ other ∈ before, ¬other.identity.Alike identity
  renamed : ∃ start finish, after.instruments = start ++ target.renamed nickname :: finish ∧
    List.Forall₂ (Spared nickname) before start ∧ List.Forall₂ (Spared nickname) rest finish ∧
    (Text.allBlank nickname → List.Forall₂
      (fun old new => ∀ own, old.nickname = some own → ¬Text.allBlank own →
        new.nickname = some own) (before ++ rest) (start ++ finish))
  leads : ¬Text.allBlank nickname → ∀ name, sameName name nickname →
    after.find? name = some (target.renamed nickname)

theorem forall₂_spared (nickname : String) (instruments : List Instrument) :
    List.Forall₂ (Spared nickname) instruments
      (instruments.map (released (Text.trimmed nickname))) :=
  List.forall₂_map_right_iff.2 (List.forall₂_same.2 fun other _ => spared_released nickname other)

theorem renames_of_first (nickname : String)
    (whole : registry.instruments = before ++ target :: rest)
    (found : target.identity.Alike identity)
    (first : ∀ other ∈ before, ¬other.identity.Alike identity) :
    ∃ after, registry.setNickname? nickname identity = some after ∧
      registry.Renames nickname identity after before target rest := by
  have known : registry.knows identity :=
    knows_eq_true.2 ⟨target, by simp [whole], found⟩
  have start := forall₂_spared nickname before
  have finish := forall₂_spared nickname rest
  have list : rename (Text.trimmed nickname) identity false registry.instruments =
      before.map (released (Text.trimmed nickname)) ++
        target.renamed nickname :: rest.map (released (Text.trimmed nickname)) := by
    rw [whole, rename_of_first found first]
  refine ⟨⟨_⟩, if_pos known, whole, found, first, ⟨_, _, list, start, finish, ?blank⟩, ?leads⟩
  case blank =>
    intro blank
    refine (List.rel_append start finish).imp fun old new spared own named visible => ?_
    exact spared.nickname_of_blank blank named visible
  case leads =>
    intro visible name same
    rw [sameName_comm] at same
    refine find?_of_first list ?_ fun other member => ?_
    · rw [← answersTo_congr same, answersTo_eq_true]
      refine ⟨Text.trimmed nickname, ?_, ?_⟩
      · rw [renamed, if_neg visible]
      · rw [sameName_comm, sameName_trimmed, sameName_eq_true]
    · obtain ⟨old, -, rfl⟩ := List.mem_map.1 member
      rw [← answersTo_congr same]
      exact (spared_released nickname old).not_answersTo

theorem Renames.particulars
    (renames : registry.Renames nickname identity after before target rest) :
    after.instruments.map Instrument.particulars =
      registry.instruments.map Instrument.particulars := by
  obtain ⟨start, finish, whole, before, rest, -⟩ := renames.renamed
  have same : ∀ {olds news : List Instrument}, List.Forall₂ (Spared nickname) olds news →
      news.map Instrument.particulars = olds.map Instrument.particulars := by
    intro olds news spared
    induction spared with
    | nil => rfl
    | cons head _ ih => rw [List.map_cons, List.map_cons, head.particulars, ih]
  rw [whole, renames.whole, List.map_append, List.map_append, List.map_cons, List.map_cons,
    same before, same rest]
  rfl

/-- A nickname can be given exactly if some instrument has the identity.  The first one that has
it is then renamed and found by the nickname, and the others are spared.  Resources, kinds,
identities and their order stay as they are in any case. -/
theorem setNickname?_first (registry : Registry) (nickname : String) (identity : Identity) :
    ((registry.setNickname? nickname identity).isSome ↔
      ∃ instrument ∈ registry.instruments, instrument.identity.Alike identity) ∧
    (∀ after, registry.setNickname? nickname identity = some after →
      ∃ before target rest, registry.Renames nickname identity after before target rest) ∧
    ((registry.setNickname? nickname identity).getD registry).instruments.map
        Instrument.particulars = registry.instruments.map Instrument.particulars := by
  by_cases known : ∃ instrument ∈ registry.instruments, instrument.identity.Alike identity
  case pos =>
    obtain ⟨before, target, rest, whole, found, first⟩ := exists_first known
    obtain ⟨after, given, renames⟩ := renames_of_first nickname whole found first
    rw [given]
    refine ⟨⟨fun _ => known, fun _ => rfl⟩, ?_, renames.particulars⟩
    rintro other ⟨⟩
    exact ⟨before, target, rest, renames⟩
  case neg =>
    have unknown : registry.setNickname? nickname identity = none :=
      if_neg fun knows => known (knows_eq_true.1 knows)
    rw [unknown]
    refine ⟨⟨fun some => absurd some Bool.false_ne_true, fun found => absurd found known⟩, ?_, rfl⟩
    rintro after ⟨⟩

/-- Of two entries for one power supply the first takes the nickname over, from the meter before
it and from the scope after it. -/
theorem setNickname?_first_taken :
    let meter : Instrument := ⟨"ASRL3::INSTR", .serial, ⟨"OWON", "XDM1041", "SN2"⟩, some " PSU "⟩
    let supply : Instrument :=
      ⟨"USB0::1::INSTR", .visa, ⟨"Siglent", "SPD3303X", "SN1"⟩, some "old"⟩
    let again : Instrument := { supply with resource := "USB0::2::INSTR" }
    let scope : Instrument := ⟨"USB0::3::INSTR", .visa, ⟨"Rigol", "DS1054Z", "SN3"⟩, some "psu"⟩
    let registry : Registry := ⟨[meter, supply, again, scope]⟩
    let identity : Identity := ⟨"SIGLENT", " spd3303x", "sn1"⟩
    let after : Registry := ⟨[{ meter with nickname := none },
      { supply with nickname := some "Psu" }, again, { scope with nickname := none }]⟩
    registry.setNickname? "Psu " identity = some after ∧
      (∃ instrument ∈ registry.instruments, instrument.identity.Alike identity) ∧
      ∃ before target rest, registry.Renames "Psu " identity after before target rest := by
  intro meter supply again scope registry identity after
  have given : registry.setNickname? "Psu " identity = some after := by decide +kernel
  obtain ⟨known, renames, -⟩ := setNickname?_first registry "Psu " identity
  exact ⟨given, known.1 (by rw [given]; rfl), renames after given⟩

end Registry

end InstrumentBench
