import InstrumentBench.Instrument.Link
import Mathlib.Data.List.Induction
import Mathlib.Data.List.Nodup

/-!
# Nicknames of registered instruments

A nickname is meant for one instrument.  Giving one takes it away from every other
instrument, and asking an instrument for its identity gives none.  Registering an
instrument, however, takes over the nickname it brings as it is: `register_unambiguous_iff`
says that two instruments share a nickname afterwards exactly if one at another resource
had it already, and `register_ambiguous` is such a case.  Without it a nickname goes for at
most one instrument, after any run (`run_unambiguous`).
-/

namespace InstrumentBench

theorem sameName_comm (first second : String) : sameName first second = sameName second first := by
  simp [sameName, eq_comm]

/-- Whether two instruments go by the same nickname. -/
def Instrument.clashes (first second : Instrument) : Bool :=
  match first.nickname with
  | some nickname => second.answersTo nickname
  | none => false

namespace Instrument

variable {first second : Instrument}

theorem clashes_eq_true :
    first.clashes second ↔ ∃ nickname other, first.nickname = some nickname ∧
      second.nickname = some other ∧ sameName nickname other := by
  cases named : first.nickname with
  | none => simp [clashes, named]
  | some nickname =>
    cases otherNamed : second.nickname with
    | none => simp [clashes, answersTo, named, otherNamed]
    | some other => simp [clashes, answersTo, named, otherNamed, sameName_comm]

theorem clashes_comm (first second : Instrument) :
    first.clashes second = second.clashes first := by
  rw [Bool.eq_iff_iff, clashes_eq_true, clashes_eq_true]
  constructor
  · rintro ⟨nickname, other, named, otherNamed, same⟩
    exact ⟨other, nickname, otherNamed, named, by rwa [sameName_comm]⟩
  · rintro ⟨nickname, other, named, otherNamed, same⟩
    exact ⟨other, nickname, otherNamed, named, by rwa [sameName_comm]⟩

/-- Instruments that go by one name clash. -/
theorem clashes_of_answersTo {name : String} (answers : first.answersTo name)
    (alsoAnswers : second.answersTo name) : first.clashes second := by
  cases named : first.nickname with
  | none => simp [answersTo, named] at answers
  | some nickname =>
    cases otherNamed : second.nickname with
    | none => simp [answersTo, otherNamed] at alsoAnswers
    | some other => simp_all [clashes, answersTo, sameName]

/-- Only the nickname matters. -/
theorem clashes_congr (same : first.nickname = second.nickname) (other : Instrument) :
    first.clashes other = second.clashes other := by
  rw [clashes, clashes, same]

end Instrument

namespace Registry

/-- No two instruments go by the same nickname. -/
def Unambiguous (registry : Registry) : Prop :=
  registry.instruments.Pairwise fun first second => ¬first.clashes second

instance (registry : Registry) : Decidable registry.Unambiguous :=
  inferInstanceAs (Decidable (registry.instruments.Pairwise fun first second =>
    ¬first.clashes second))

/-- No two instruments have the same resource. -/
def Distinct (registry : Registry) : Prop :=
  (registry.instruments.map Instrument.resource).Nodup

/-- An instrument brings no nickname that an instrument at another resource goes by. -/
def Admits (registry : Registry) (instrument : Instrument) : Prop :=
  ∀ other ∈ registry.instruments, other.resource ≠ instrument.resource →
    ¬instrument.clashes other

instance (registry : Registry) (instrument : Instrument) :
    Decidable (registry.Admits instrument) :=
  inferInstanceAs (Decidable (∀ other ∈ registry.instruments,
    other.resource ≠ instrument.resource → ¬instrument.clashes other))

variable {registry : Registry} {instrument : Instrument} {instruments : List Instrument}

theorem pairwise_middle {before after : List Instrument} :
    (before ++ instrument :: after).Pairwise (fun first second => ¬first.clashes second) ↔
      (∀ other ∈ before ++ after, ¬instrument.clashes other) ∧
        (before ++ after).Pairwise fun first second => ¬first.clashes second := by
  rw [List.pairwise_middle, List.pairwise_cons]
  intro first second
  rw [Instrument.clashes_comm]
  exact id

/-! ## Registering -/

/-- An instrument is put at the end, or in place of the one with its resource. -/
theorem place_cases (instrument : Instrument) (instruments : List Instrument) :
    ((∀ other ∈ instruments, other.resource ≠ instrument.resource) ∧
      place instrument instruments = instruments ++ [instrument]) ∨
    ∃ before old after, instruments = before ++ old :: after ∧
      old.resource = instrument.resource ∧
      place instrument instruments = before ++
        { instrument with nickname := instrument.nickname.or old.nickname } :: after := by
  induction instruments with
  | nil => exact .inl ⟨by simp, rfl⟩
  | cons head rest ih =>
    rw [place]
    by_cases same : head.resource = instrument.resource
    · rw [if_pos same]
      exact .inr ⟨[], head, rest, rfl, same, rfl⟩
    · rw [if_neg same]
      rcases ih with ⟨absent, placed⟩ | ⟨before, old, after, rfl, found, placed⟩
      · exact .inl ⟨List.forall_mem_cons.2 ⟨same, absent⟩, by rw [placed]; rfl⟩
      · exact .inr ⟨head :: before, old, after, rfl, found, by rw [placed]; rfl⟩

theorem Distinct.register (distinct : registry.Distinct) (instrument : Instrument) :
    (registry.register instrument).Distinct := by
  rw [Distinct] at distinct ⊢
  rw [Registry.register]
  rcases place_cases instrument registry.instruments with ⟨absent, placed⟩ |
    ⟨before, old, after, whole, found, placed⟩
  · rw [placed, List.map_append, List.map_singleton, List.nodup_append]
    refine ⟨distinct, List.nodup_singleton _, ?_⟩
    rintro resource member _ last rfl
    obtain ⟨other, present, rfl⟩ := List.mem_map.1 member
    exact absent other present (List.mem_singleton.1 last)
  · have resources : (place instrument registry.instruments).map Instrument.resource =
        registry.instruments.map Instrument.resource := by
      rw [placed, whole]
      simp [found]
    rwa [resources]

/-- What holds at all other resources, holds of all instruments but the one replaced. -/
theorem forall_elsewhere {before after : List Instrument} {old : Instrument}
    (found : old.resource = instrument.resource)
    (elsewhere : ∀ other ∈ before ++ after, other.resource ≠ instrument.resource)
    (property : Instrument → Prop) :
    (∀ other ∈ before ++ old :: after, other.resource ≠ instrument.resource → property other) ↔
      ∀ other ∈ before ++ after, property other := by
  simp only [List.forall_mem_append, List.forall_mem_cons] at elsewhere ⊢
  constructor
  · intro ⟨earlier, _, later⟩
    exact ⟨fun other member => earlier other member (elsewhere.1 other member),
      fun other member => later other member (elsewhere.2 other member)⟩
  · intro ⟨earlier, later⟩
    exact ⟨fun other member _ => earlier other member, fun away => absurd found away,
      fun other member _ => later other member⟩

/-- Registering an instrument leaves nicknames unambiguous exactly if it brings none that
an instrument at another resource goes by. -/
theorem register_unambiguous_iff (distinct : registry.Distinct)
    (unambiguous : registry.Unambiguous) (instrument : Instrument) :
    (registry.register instrument).Unambiguous ↔ registry.Admits instrument := by
  rw [Unambiguous, register, Admits]
  rcases place_cases instrument registry.instruments with ⟨absent, placed⟩ |
    ⟨before, old, after, whole, found, placed⟩
  · rw [placed, pairwise_middle, List.append_nil]
    constructor
    · intro ⟨others, _⟩ other member _
      exact others other member
    · intro admitted
      exact ⟨fun other member => admitted other member (absent other member), unambiguous⟩
  · rw [Unambiguous, whole, pairwise_middle] at unambiguous
    rw [Distinct, whole, List.map_append, List.map_cons, List.nodup_middle, List.nodup_cons,
      ← List.map_append] at distinct
    have elsewhere : ∀ other ∈ before ++ after, other.resource ≠ instrument.resource := by
      intro other member same
      exact distinct.1 (List.mem_map.2 ⟨other, member, same.trans found.symm⟩)
    rw [placed, pairwise_middle, whole, forall_elsewhere found elsewhere,
      and_iff_left unambiguous.2]
    cases named : instrument.nickname with
    | none =>
      -- it takes over the nickname that it replaces, which was nobody else's
      have taken : ∀ other, Instrument.clashes
          { instrument with nickname := none.or old.nickname } other = old.clashes other :=
        Instrument.clashes_congr rfl
      have silent : ∀ other, ¬instrument.clashes other := by simp [Instrument.clashes, named]
      simp only [taken]
      exact iff_of_true unambiguous.1 fun other _ => silent other
    | some nickname =>
      have kept : ∀ other, Instrument.clashes
          { instrument with nickname := (some nickname).or old.nickname } other =
            instrument.clashes other := Instrument.clashes_congr named.symm
      simp only [kept]

/-! ## Giving nicknames -/

/-- The instrument without its nickname, if that is a given one. -/
def released (nickname : String) (instrument : Instrument) : Instrument :=
  if instrument.answersTo nickname then { instrument with nickname := none } else instrument

theorem not_answersTo_released (nickname : String) (instrument : Instrument) :
    ¬(released nickname instrument).answersTo nickname := by
  rw [released]
  split
  next => simp [Instrument.answersTo]
  next kept => exact kept

theorem nickname_released {nickname name : String}
    (named : (released nickname instrument).nickname = some name) :
    instrument.nickname = some name := by
  rw [released] at named
  split at named
  next => cases named
  next => exact named

/-- Once an instrument has been given the nickname, the others only lose it. -/
theorem rename_bound (nickname : String) (identity : Identity) (instruments : List Instrument) :
    rename nickname identity true instruments = instruments.map (released nickname) := by
  induction instruments with
  | nil => rfl
  | cons head rest ih =>
    rw [rename, ih]
    rfl

/-- One instrument is given the nickname, and all others lose it. -/
theorem rename_cases (nickname : String) (identity : Identity) (instruments : List Instrument) :
    rename nickname identity false instruments = instruments.map (released nickname) ∨
    ∃ before target after, instruments = before ++ target :: after ∧
      rename nickname identity false instruments =
        before.map (released nickname) ++
          { target with nickname := if nickname = "" then none else some nickname } ::
            after.map (released nickname) := by
  induction instruments with
  | nil => exact .inl rfl
  | cons head rest ih =>
    rw [rename]
    by_cases found : head.identity.matchesName identity
    · rw [if_pos (by simp [found]), rename_bound]
      exact .inr ⟨[], head, rest, rfl, rfl⟩
    · rw [if_neg (by simp [found])]
      rcases ih with renamed | ⟨before, target, after, rfl, renamed⟩
      · rw [renamed]
        exact .inl rfl
      · rw [renamed]
        exact .inr ⟨head :: before, target, after, rfl, rfl⟩

theorem pairwise_map_released
    (unambiguous : instruments.Pairwise fun first second => ¬first.clashes second)
    (nickname : String) :
    (instruments.map (released nickname)).Pairwise fun first second => ¬first.clashes second := by
  rw [List.pairwise_map]
  refine unambiguous.imp fun {first second} apart clash => apart ?_
  obtain ⟨name, other, named, otherNamed, same⟩ := Instrument.clashes_eq_true.1 clash
  exact Instrument.clashes_eq_true.2
    ⟨name, other, nickname_released named, nickname_released otherNamed, same⟩

theorem eq_rename_of_setNickname? {nickname : String} {identity : Identity} {after : Registry}
    (given : registry.setNickname? nickname identity = some after) :
    after = ⟨rename (Text.trimmed nickname) identity false registry.instruments⟩ := by
  rw [setNickname?] at given
  split at given
  next => exact (Option.some.inj given).symm
  next => cases given

/-- Giving a nickname leaves nicknames unambiguous. -/
theorem Unambiguous.setNickname? (unambiguous : registry.Unambiguous) {nickname : String}
    {identity : Identity} {after : Registry}
    (given : registry.setNickname? nickname identity = some after) : after.Unambiguous := by
  rw [eq_rename_of_setNickname? given, Unambiguous]
  rcases rename_cases (Text.trimmed nickname) identity registry.instruments with renamed |
    ⟨before, target, rest, whole, renamed⟩
  · rw [renamed]
    exact pairwise_map_released unambiguous _
  · rw [Unambiguous, whole, pairwise_middle] at unambiguous
    rw [renamed, pairwise_middle, ← List.map_append]
    refine ⟨fun other member clash => ?_, pairwise_map_released unambiguous.2 _⟩
    obtain ⟨kept, -, rfl⟩ := List.mem_map.1 member
    rw [Instrument.clashes] at clash
    split at clash
    next name named =>
      split at named
      next => cases named
      next =>
        cases named
        exact not_answersTo_released _ kept clash
    next => cases clash

@[simp] theorem resource_released (nickname : String) (instrument : Instrument) :
    (released nickname instrument).resource = instrument.resource := by
  rw [released]
  split <;> rfl

/-- Giving a nickname leaves the instruments where they are. -/
theorem resources_rename (nickname : String) (identity : Identity)
    (instruments : List Instrument) :
    (rename nickname identity false instruments).map Instrument.resource =
      instruments.map Instrument.resource := by
  rcases rename_cases nickname identity instruments with renamed |
    ⟨before, target, rest, whole, renamed⟩
  · rw [renamed]
    simp [Function.comp_def]
  · rw [renamed, whole]
    simp [Function.comp_def]

theorem Distinct.setNickname? (distinct : registry.Distinct) {nickname : String}
    {identity : Identity} {after : Registry}
    (given : registry.setNickname? nickname identity = some after) : after.Distinct := by
  rw [eq_rename_of_setNickname? given, Distinct, resources_rename]
  exact distinct

end Registry

/-! ## Runs -/

/-- One thing asked of a registry. -/
inductive RegistryOperation where
  | register (instrument : Instrument)
  | identify (resource : String)
  | setNickname (nickname : String) (identity : Identity)

namespace Registry

variable {channel : Type} [Transport channel]

/-- An identification fails and changes nothing, or its reply is understood, and the instrument
reported, which has no nickname, is registered. -/
theorem identify_cases (registry : Registry) (link : channel) (resource : String) :
    (∃ error, (registry.identify link resource).1 = .error error ∧
      (registry.identify link resource).2.1 = registry) ∨
    ∃ reply identity, (Transport.query link resource identityQuery).1 = .ok reply ∧
      Identity.read? reply = some identity ∧
      (registry.identify link resource).1 = .ok (Instrument.ofIdentity resource identity) ∧
      (registry.identify link resource).2.1 =
        registry.register (Instrument.ofIdentity resource identity) := by
  rw [identify]
  split
  next error later asked => exact .inl ⟨error, rfl, rfl⟩
  next reply later asked =>
    split
    next => exact .inl ⟨_, rfl, rfl⟩
    next identity understood =>
      exact .inr ⟨reply, identity, by rw [asked], understood, rfl, rfl⟩

theorem admits_of_nameless (registry : Registry) {instrument : Instrument}
    (nameless : instrument.nickname = none) : registry.Admits instrument := fun other _ _ => by
  simp [Instrument.clashes, nameless]

/-- Performs one operation on a registry, with a link to the instruments. -/
def perform (state : Registry × channel) : RegistryOperation → Registry × channel
  | .register instrument => (state.1.register instrument, state.2)
  | .identify resource => (state.1.identify state.2 resource).2
  | .setNickname nickname identity =>
    ((state.1.setNickname? nickname identity).getD state.1, state.2)

/-- The registry and the link after operations performed one after the other, no instrument
being known before them. -/
def run (link : channel) (operations : List RegistryOperation) : Registry × channel :=
  operations.foldl perform (empty, link)

/-- One operation leaves the instruments as they are, registers one, or gives a nickname.  An
instrument that it was not told to register comes without a nickname. -/
theorem perform_cases (state : Registry × channel) (operation : RegistryOperation) :
    (perform state operation).1 = state.1 ∨
    (∃ instrument, (operation = .register instrument ∨ instrument.nickname = none) ∧
      (perform state operation).1 = state.1.register instrument) ∨
    ∃ nickname identity,
      state.1.setNickname? nickname identity = some (perform state operation).1 := by
  cases operation with
  | register instrument => exact .inr (.inl ⟨instrument, .inl rfl, rfl⟩)
  | identify resource =>
    rcases identify_cases state.1 state.2 resource with
      ⟨-, -, same⟩ | ⟨-, identity, -, -, -, registered⟩
    · exact .inl same
    · exact .inr (.inl ⟨Instrument.ofIdentity resource identity, .inr rfl, registered⟩)
  | setNickname nickname identity =>
    rw [perform]
    cases given : state.1.setNickname? nickname identity with
    | none => exact .inl rfl
    | some after => exact .inr (.inr ⟨nickname, identity, given⟩)

theorem Distinct.perform {state : Registry × channel} (distinct : state.1.Distinct)
    (operation : RegistryOperation) : (perform state operation).1.Distinct := by
  rcases perform_cases state operation with
    same | ⟨instrument, -, registered⟩ | ⟨nickname, identity, given⟩
  · rw [same]
    exact distinct
  · rw [registered]
    exact distinct.register instrument
  · exact distinct.setNickname? given

/-- One operation leaves nicknames unambiguous, but for an instrument registered with a
nickname that another goes by. -/
theorem perform_unambiguous {state : Registry × channel} {operation : RegistryOperation}
    (distinct : state.1.Distinct) (unambiguous : state.1.Unambiguous)
    (admitted : ∀ instrument, operation = .register instrument → state.1.Admits instrument) :
    (perform state operation).1.Distinct ∧ (perform state operation).1.Unambiguous := by
  refine ⟨distinct.perform operation, ?_⟩
  rcases perform_cases state operation with
    same | ⟨instrument, asked | nameless, registered⟩ | ⟨nickname, identity, given⟩
  · rw [same]
    exact unambiguous
  · rw [registered, register_unambiguous_iff distinct unambiguous]
    exact admitted instrument asked
  · rw [registered, register_unambiguous_iff distinct unambiguous]
    exact admits_of_nameless state.1 nameless
  · exact unambiguous.setNickname? given

/-- At most one instrument goes by a nickname. -/
theorem Unambiguous.length_filter_le_one {registry : Registry} (unambiguous : registry.Unambiguous)
    (name : String) : (registry.instruments.filter (·.answersTo name)).length ≤ 1 := by
  have apart := unambiguous.filter (·.answersTo name)
  have answers : ∀ instrument ∈ registry.instruments.filter (·.answersTo name),
      instrument.answersTo name := fun _ member => (List.mem_filter.1 member).2
  cases found : registry.instruments.filter (·.answersTo name) with
  | nil => exact Nat.zero_le 1
  | cons first others =>
    cases others with
    | nil => exact Nat.le_refl 1
    | cons second rest =>
      rw [found] at apart answers
      have clash := Instrument.clashes_of_answersTo (answers first (by simp))
        (answers second (by simp))
      exact absurd clash (List.rel_of_pairwise_cons apart List.mem_cons_self)

/-- After any run in which no instrument is registered with a nickname that one at another
resource goes by, no two instruments share a nickname, and so a nickname goes for at most
one. -/
theorem run_unambiguous (link : channel) (operations : List RegistryOperation)
    (admitted : ∀ before instrument after,
      operations = before ++ .register instrument :: after →
        (run link before).1.Admits instrument) :
    (run link operations).1.Unambiguous ∧
      ∀ name, ((run link operations).1.instruments.filter (·.answersTo name)).length ≤ 1 := by
  have invariant : (run link operations).1.Distinct ∧ (run link operations).1.Unambiguous := by
    induction operations using List.reverseRecOn with
    | nil => exact ⟨List.nodup_nil, List.Pairwise.nil⟩
    | append_singleton earlier operation ih =>
      obtain ⟨distinct, unambiguous⟩ := ih fun before instrument after whole =>
        admitted before instrument (after ++ [operation]) (by simp [whole])
      rw [run, List.foldl_append]
      refine perform_unambiguous distinct unambiguous ?_
      rintro instrument rfl
      exact admitted earlier instrument [] rfl
  exact ⟨invariant.2, invariant.2.length_filter_le_one⟩

/-- A nickname moves to the instrument that is given it. -/
theorem run_unambiguous_moved :
    let operations : List RegistryOperation :=
      [.register ⟨"USB0::1::INSTR", .visa, ⟨"Siglent", "SPD3303X", "SN1"⟩, some "psu"⟩,
        .register ⟨"USB0::2::INSTR", .visa, ⟨"Siglent", "SPD3303X", "SN2"⟩, none⟩,
        .setNickname "PSU" ⟨"Siglent", "SPD3303X", "SN2"⟩]
    (run (Link.ofDefault none) operations).1.Unambiguous ∧
      ∀ name, ((run (Link.ofDefault none) operations).1.instruments.filter
        (·.answersTo name)).length ≤ 1 := by
  refine run_unambiguous _ _ fun before instrument after whole => ?_
  rcases before with _ | ⟨first, _ | ⟨second, _ | ⟨third, rest⟩⟩⟩
  · cases whole
    decide
  · cases whole
    decide
  · cases whole
  · simp at whole

/-- Registering an instrument with a nickname does not take it away from another. -/
theorem register_ambiguous :
    ¬(run (Link.ofDefault none)
      [.register ⟨"USB0::1::INSTR", .visa, ⟨"Siglent", "SPD3303X", "SN1"⟩, some "psu"⟩,
        .register ⟨"USB0::2::INSTR", .visa, ⟨"Siglent", "SPD3303X", "SN2"⟩,
          some "PSU"⟩]).1.Unambiguous := by
  decide

end Registry

end InstrumentBench
