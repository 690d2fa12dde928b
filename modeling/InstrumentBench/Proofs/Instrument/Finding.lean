import InstrumentBench.Proofs.Instrument.Renaming
import InstrumentBench.Proofs.Instrument.Resources

/-!
# Finding instruments by their resources

A name is looked up without the blanks around it, first among the nicknames and then among the
resources, which count blanks and all.  An instrument whose resource is nobody's nickname is
therefore found by its resource exactly if there are no blanks around the resource
(`find?_resource`).  One with blanks is registered all the same, but its resource leads to the
instrument registered without them, if there is one, and never to itself
(`find?_resource_padded`).
-/

namespace InstrumentBench.Registry

variable {registry : Registry} {instrument : Instrument} {name : String}

/-- A name that is nobody's nickname is looked up among the resources. -/
theorem find?_of_silent (silent : ∀ other ∈ registry.instruments, ¬other.answersTo name) :
    registry.find? name = registry.instruments.find? (·.resource = Text.trimmed name) := by
  have unnamed : registry.instruments.find? (·.answersTo (Text.trimmed name)) = none := by
    simp only [Instrument.answersTo_trimmed]
    exact List.find?_eq_none.2 silent
  rw [find?, unnamed, Option.none_or]

/-- There is at most one instrument at a resource. -/
theorem Distinct.eq_of_resource (distinct : registry.Distinct) {first second : Instrument}
    (member : first ∈ registry.instruments) (other : second ∈ registry.instruments)
    (same : first.resource = second.resource) : first = second :=
  List.inj_on_of_nodup_map distinct member other same

/-- The search among the resources finds the instrument at a resource, and nothing else. -/
theorem Distinct.find?_eq_some (distinct : registry.Distinct) {resource : String} :
    registry.instruments.find? (·.resource = resource) = some instrument ↔
      instrument ∈ registry.instruments ∧ instrument.resource = resource := by
  constructor
  · intro found
    exact ⟨List.mem_of_find?_eq_some found, by simpa using List.find?_some found⟩
  · rintro ⟨member, rfl⟩
    have some : (registry.instruments.find? (·.resource = instrument.resource)).isSome :=
      List.find?_isSome.2 ⟨instrument, member, by simp⟩
    obtain ⟨found, lookedUp⟩ := Option.isSome_iff_exists.1 some
    have same : found.resource = instrument.resource := by simpa using List.find?_some lookedUp
    rw [lookedUp, distinct.eq_of_resource (List.mem_of_find?_eq_some lookedUp) member same]

variable {channel : Type} [Transport channel]

/-- After any run, a resource that is nobody's nickname leads to the instrument at that resource
without the blanks around it.  So it leads to its own instrument exactly if it has none. -/
theorem find?_resource (link : channel) (operations : List RegistryOperation)
    (member : instrument ∈ (run link operations).1.instruments)
    (silent : ∀ other ∈ (run link operations).1.instruments, ∀ own,
      other.nickname = some own → ¬sameName own instrument.resource) :
    let registry := (run link operations).1
    (registry.find? instrument.resource = some instrument ↔
      Text.trimmed instrument.resource = instrument.resource) ∧
    ∀ found, registry.find? instrument.resource = some found ↔
      found ∈ registry.instruments ∧ found.resource = Text.trimmed instrument.resource := by
  intro registry
  have distinct : registry.Distinct := distinct_run link operations
  have unnamed : ∀ other ∈ registry.instruments, ¬other.answersTo instrument.resource := by
    intro other present answers
    obtain ⟨own, named, same⟩ := Instrument.answersTo_eq_true.1 answers
    exact silent other present own named same
  have leads : ∀ found, registry.find? instrument.resource = some found ↔
      found ∈ registry.instruments ∧ found.resource = Text.trimmed instrument.resource := by
    intro found
    rw [find?_of_silent unnamed, distinct.find?_eq_some]
  refine ⟨?_, leads⟩
  rw [leads, and_iff_right member, eq_comm]

/-- A meter beside a supply with a nickname is found by its resource. -/
theorem find?_resource_meter :
    let supply : Instrument :=
      ⟨"USB0::1::INSTR", .visa, ⟨"Siglent", "SPD3303X", "SN1"⟩, some "psu"⟩
    let meter : Instrument := ⟨"ASRL3::INSTR", .serial, ⟨"OWON", "XDM1041", "SN2"⟩, none⟩
    let registry := (run (Link.ofDefault none) [.register supply, .register meter]).1
    meter ∈ registry.instruments ∧
      (∀ other ∈ registry.instruments, ∀ own,
        other.nickname = some own → ¬sameName own meter.resource) ∧
      registry.find? meter.resource = some meter := by
  intro supply meter registry
  have member : meter ∈ registry.instruments := by decide
  have silent : ∀ other ∈ registry.instruments, ∀ own,
      other.nickname = some own → ¬sameName own meter.resource := by
    intro other present own named
    have all : registry.instruments = [supply, meter] := by decide
    rw [all, List.mem_pair] at present
    rcases present with rfl | rfl
    · cases named
      decide
    · cases named
  exact ⟨member, silent, (find?_resource _ _ member silent).1.2 (by decide)⟩

/-- A supply registered with a blank after its resource cannot be reached by that resource: it
leads to another one, registered without the blank. -/
theorem find?_resource_padded :
    let supply : Instrument :=
      ⟨"USB0::1::INSTR", .visa, ⟨"Siglent", "SPD3303X", "SN1"⟩, none⟩
    let padded : Instrument :=
      ⟨"USB0::1::INSTR ", .visa, ⟨"Siglent", "SPD3303X", "SN2"⟩, none⟩
    let registry := (run (Link.ofDefault none) [.register supply, .register padded]).1
    padded ∈ registry.instruments ∧ (∀ other ∈ registry.instruments, other.nickname = none) ∧
      registry.find? padded.resource = some supply ∧ supply ≠ padded := by
  decide

end InstrumentBench.Registry
