import InstrumentBench.Proofs.Instrument.Finding

/-!
# What asking for an identity leaves behind

An instrument that tells its identity is registered, and is then the only one at its resource.
The registry keeps the nickname of the instrument that stood there before, but the instrument
reported has none, whatever the registry keeps.  `identify_registered` says that the two are the
same exactly if no nickname was kept, and `identify_outdated` is a case where one was.
-/

namespace InstrumentBench.Registry

variable {registry : Registry} {instrument : Instrument} {resource : String}

/-- The instruments at a resource. -/
def instrumentsAt (registry : Registry) (resource : String) : List Instrument :=
  registry.instruments.filter (·.resource = resource)

/-- In a registry an instrument stands alone at its resource. -/
theorem Distinct.instrumentsAt_eq (distinct : registry.Distinct)
    (member : instrument ∈ registry.instruments) :
    registry.instrumentsAt instrument.resource = [instrument] := by
  have same : ∀ other ∈ registry.instruments,
      decide (other.resource = instrument.resource) = decide (other = instrument) := by
    intro other present
    refine decide_eq_decide.2 ⟨fun shared => distinct.eq_of_resource present member shared, ?_⟩
    rintro rfl
    rfl
  have once : registry.instruments.count instrument = 1 :=
    List.count_eq_one_of_mem (List.Nodup.of_map _ distinct) member
  rw [instrumentsAt, List.filter_congr same, List.filter_eq, once]
  rfl

/-- Registering leaves one instrument at the resource: the one registered, which takes over the
nickname of the one that stood there if it brings none. -/
theorem Distinct.instrumentsAt_register (distinct : registry.Distinct) (instrument : Instrument) :
    ∃ kept,
      (∀ name, kept = some name ↔ ∃ old ∈ registry.instruments,
        old.resource = instrument.resource ∧ old.nickname = some name) ∧
      (registry.register instrument).instrumentsAt instrument.resource =
        [{ instrument with nickname := instrument.nickname.or kept }] := by
  have after := distinct.register instrument
  rcases place_cases instrument registry.instruments with
    ⟨absent, placed⟩ | ⟨before, old, rest, whole, known, placed⟩
  · have stands : instrument ∈ (registry.register instrument).instruments := by
      rw [Registry.register, placed]
      exact List.mem_append_right _ (List.mem_singleton.2 rfl)
    refine ⟨none, fun name => ?_, ?_⟩
    · constructor
      · rintro ⟨⟩
      · rintro ⟨old, member, known, -⟩
        exact absurd known (absent old member)
    · rw [Option.or_none]
      exact after.instrumentsAt_eq stands
  · have member : old ∈ registry.instruments := by
      rw [whole]
      exact List.mem_append_right _ List.mem_cons_self
    have stands : { instrument with nickname := instrument.nickname.or old.nickname } ∈
        (registry.register instrument).instruments := by
      rw [Registry.register, placed]
      exact List.mem_append_right _ List.mem_cons_self
    refine ⟨old.nickname, fun name => ?_, after.instrumentsAt_eq stands⟩
    constructor
    · intro named
      exact ⟨old, member, known, named⟩
    · rintro ⟨other, present, shared, named⟩
      rwa [distinct.eq_of_resource member present (known.trans shared.symm)]

/-! ## Asking -/

variable {channel other : Type} [Transport channel] [Transport other]

/-- After any run, an instrument that tells its identity is reported with that identity and
without a nickname.  It is then the only one at its resource, where it has the nickname of the
instrument that stood there.  So the instrument reported is the one in the registry exactly if
that one had no nickname. -/
theorem identify_registered (start : channel) (operations : List RegistryOperation) (link : other)
    (identified : ((run start operations).1.identify link resource).1 = .ok instrument) :
    let before := (run start operations).1
    let after := (before.identify link resource).2.1
    (∃ reply identity, (Transport.query link resource identityQuery).1 = .ok reply ∧
      Identity.read? reply = some identity ∧
      instrument = Instrument.ofIdentity resource identity) ∧
    (∃ kept, after.instrumentsAt resource = [{ instrument with nickname := kept }] ∧
      ∀ name, kept = some name ↔
        ∃ old ∈ before.instruments, old.resource = resource ∧ old.nickname = some name) ∧
    (after.instrumentsAt resource = [instrument] ↔
      ∀ old ∈ before.instruments, old.resource = resource → old.nickname = none) := by
  intro before after
  have distinct : before.Distinct := distinct_run start operations
  obtain ⟨reply, identity, told, understood, reported, registered⟩ :=
    (identify_cases before link resource).resolve_left fun ⟨_, failed, _⟩ => by
      rw [identified] at failed
      cases failed
  rw [identified] at reported
  cases reported
  obtain ⟨kept, taken, placed⟩ :=
    distinct.instrumentsAt_register (Instrument.ofIdentity resource identity)
  have alone : after.instrumentsAt resource =
      [{ Instrument.ofIdentity resource identity with nickname := kept }] := by
    rw [← registered] at placed
    exact placed
  refine ⟨⟨reply, identity, told, understood, rfl⟩, ⟨kept, alone, taken⟩, ?_⟩
  have same : after.instrumentsAt resource = [Instrument.ofIdentity resource identity] ↔
      kept = none := by
    rw [alone, List.singleton_inj]
    constructor
    · intro equal
      exact congrArg Instrument.nickname equal
    · rintro rfl
      rfl
  rw [same, Option.eq_none_iff_forall_ne_some]
  constructor
  · intro nothing old member shared
    rw [Option.eq_none_iff_forall_ne_some]
    exact fun name named => nothing name ((taken name).2 ⟨old, member, shared, named⟩)
  · intro nameless name named
    obtain ⟨old, member, shared, own⟩ := (taken name).1 named
    rw [nameless old member shared] at own
    cases own

/-- A meter that nobody has named is reported as it is registered. -/
theorem identify_registered_meter :
    let meter : Instrument := ⟨"ASRL3::INSTR", .serial, ⟨"OWON", "XDM1041", "SN2"⟩, none⟩
    let link := Link.ofDefault (some "OWON XDM1041 SN2")
    let before := (run link [.identify "ASRL3::INSTR"]).1
    (before.identify link "ASRL3::INSTR").1 = .ok meter ∧
      (before.identify link "ASRL3::INSTR").2.1.instrumentsAt "ASRL3::INSTR" = [meter] := by
  intro meter link before
  have identified : (before.identify link "ASRL3::INSTR").1 = .ok meter := by decide
  have alone := (identify_registered link [.identify "ASRL3::INSTR"] link identified).2.2
  exact ⟨identified, alone.2 (by decide)⟩

/-- A meter that has been given a nickname is reported without it, although the registry keeps
it. -/
theorem identify_outdated :
    let meter : Instrument := ⟨"ASRL3::INSTR", .serial, ⟨"OWON", "XDM1041", "SN2"⟩, none⟩
    let link := Link.ofDefault (some "OWON XDM1041 SN2")
    let before := (run link [.identify "ASRL3::INSTR", .setNickname "dmm" meter.identity]).1
    (before.identify link "ASRL3::INSTR").1 = .ok meter ∧
      (before.identify link "ASRL3::INSTR").2.1.instrumentsAt "ASRL3::INSTR" =
        [{ meter with nickname := some "dmm" }] := by
  decide

end InstrumentBench.Registry
