import InstrumentBench.Proofs.Instrument.Nicknames
import Mathlib.Data.List.Infix

/-!
# Resources of registered instruments

A registry lists every resource once, in the order of first registration.  No operation takes
an instrument out of the list or moves it, and an operation that fails changes nothing.

`resources_perform` says what one operation does to the list of resources, and
`run_resources` what holds of the registry after any run.
-/

namespace InstrumentBench.Registry

/-- The resources of the instruments, in their order. -/
def resources (registry : Registry) : List String :=
  registry.instruments.map Instrument.resource

variable {registry : Registry} {instrument old : Instrument} {before after : List Instrument}

/-! ## Registering -/

/-- An instrument at a resource of its own goes to the end. -/
theorem place_of_new {instruments : List Instrument}
    (new : instrument.resource ∉ instruments.map Instrument.resource) :
    place instrument instruments = instruments ++ [instrument] := by
  induction instruments with
  | nil => rfl
  | cons head rest ih =>
    rw [List.map_cons, List.mem_cons, not_or] at new
    rw [place, if_neg (Ne.symm new.1), ih new.2]
    rfl

/-- An instrument at a known resource takes the place of the first one there, and its
nickname if it brings none. -/
theorem place_of_known (first : instrument.resource ∉ before.map Instrument.resource)
    (known : old.resource = instrument.resource) :
    place instrument (before ++ old :: after) =
      before ++ { instrument with nickname := instrument.nickname.or old.nickname } :: after := by
  induction before with
  | nil =>
    change place instrument (old :: after) = _
    rw [place, if_pos known]
    rfl
  | cons head rest ih =>
    rw [List.map_cons, List.mem_cons, not_or] at first
    rw [List.cons_append, place, if_neg (Ne.symm first.1), ih first.2]
    rfl

/-- In a registry the one instrument at a resource is the first there. -/
theorem Distinct.not_mem_before (distinct : registry.Distinct)
    (whole : registry.instruments = before ++ old :: after) :
    old.resource ∉ before.map Instrument.resource := by
  intro earlier
  rw [Distinct, whole, List.map_append, List.map_cons] at distinct
  exact List.disjoint_of_nodup_append distinct earlier List.mem_cons_self

/-- Registering adds the resource at the end, unless it is there. -/
theorem resources_register (registry : Registry) (instrument : Instrument) :
    registry.resources <+: (registry.register instrument).resources := by
  rw [resources, resources, register]
  rcases place_cases instrument registry.instruments with
    ⟨-, placed⟩ | ⟨before, old, after, whole, known, placed⟩
  · rw [placed, List.map_append]
    exact List.prefix_append _ _
  · rw [placed, whole, List.map_append, List.map_append, List.map_cons, List.map_cons, known]

/-! ## Runs -/

variable {channel : Type} [Transport channel]

/-- Asking for an identity changes the registry only if the answer can be understood. -/
theorem identify_of_error {link : channel} {resource : String} {error : LinkError}
    (failed : (registry.identify link resource).1 = .error error) :
    (registry.identify link resource).2.1 = registry := by
  rcases identify_cases registry link resource with ⟨-, -, same⟩ | ⟨_, _, -, -, reported, -⟩
  · exact same
  · rw [failed] at reported
    cases reported

/-- One operation leaves the resources as they are or adds one at the end. -/
theorem resources_perform (state : Registry × channel) (operation : RegistryOperation) :
    state.1.resources <+: (perform state operation).1.resources := by
  rcases perform_cases state operation with
    same | ⟨instrument, -, registered⟩ | ⟨nickname, identity, given⟩
  · rw [same]
  · rw [registered]
    exact resources_register state.1 instrument
  · rw [eq_rename_of_setNickname? given, resources, resources, resources_rename]

theorem run_append (link : channel) (earlier later : List RegistryOperation) :
    run link (earlier ++ later) = later.foldl perform (run link earlier) :=
  List.foldl_append

theorem distinct_run (link : channel) (operations : List RegistryOperation) :
    (run link operations).1.Distinct := by
  induction operations using List.reverseRecOn with
  | nil => exact List.nodup_nil
  | append_singleton earlier operation ih =>
    rw [run_append]
    exact ih.perform operation

theorem resources_foldl_perform (state : Registry × channel) (later : List RegistryOperation) :
    state.1.resources <+: (later.foldl perform state).1.resources := by
  induction later generalizing state with
  | nil => exact List.prefix_rfl
  | cons operation rest ih => exact (resources_perform state operation).trans (ih _)

/-- After any run every resource is listed once, and whatever is done next, the list goes on
as it is.  An instrument registered at a new resource goes to the end; one at a known
resource takes the place of the old one there, and its nickname if it brings none.  Nothing
changes where asking for an identity fails, or where no instrument is there to be given a
nickname. -/
theorem run_resources (link : channel) (operations : List RegistryOperation) :
    let registry := (run link operations).1
    registry.resources.Nodup ∧
      (∀ later, registry.resources <+: (run link (operations ++ later)).1.resources) ∧
      (∀ instrument, instrument.resource ∉ registry.resources →
        (registry.register instrument).instruments = registry.instruments ++ [instrument]) ∧
      (∀ instrument before old after, registry.instruments = before ++ old :: after →
        old.resource = instrument.resource →
        (registry.register instrument).instruments =
          before ++ { instrument with nickname := instrument.nickname.or old.nickname } :: after) ∧
      (∀ (other : channel) resource error, (registry.identify other resource).1 = .error error →
        (registry.identify other resource).2.1 = registry) ∧
      ∀ (other : channel) nickname identity, registry.setNickname? nickname identity = none →
        perform (registry, other) (.setNickname nickname identity) = (registry, other) := by
  intro registry
  have distinct : registry.Distinct := distinct_run link operations
  refine ⟨distinct, ?later, ?new, ?known, ?failed, ?unknown⟩
  case later =>
    intro later
    rw [run_append]
    exact resources_foldl_perform _ later
  case new =>
    intro instrument new
    exact place_of_new new
  case known =>
    intro instrument before old after whole known
    have first := distinct.not_mem_before whole
    rw [known] at first
    rw [register, whole]
    exact place_of_known first known
  case failed =>
    intro other resource error failed
    exact identify_of_error failed
  case unknown =>
    intro other nickname identity unknown
    rw [perform, unknown]
    rfl

/-- A power supply that is registered again without a nickname stands where it stood and is
called what it was called. -/
theorem run_resources_again :
    let supply : Instrument :=
      ⟨"USB0::1::INSTR", .visa, ⟨"Siglent", "SPD3303X", "SN1"⟩, some "psu"⟩
    let meter : Instrument := ⟨"ASRL3::INSTR", .serial, ⟨"OWON", "XDM1041", "SN2"⟩, none⟩
    let scope : Instrument := ⟨"USB0::2::INSTR", .visa, ⟨"Rigol", "DS1054Z", "SN3"⟩, none⟩
    let link := Link.ofDefault none
    let registry := (run link [.register supply, .register meter]).1
    "USB0::2::INSTR" ∉ registry.resources ∧
      (registry.register scope).instruments = registry.instruments ++ [scope] ∧
      registry.instruments = [] ++ supply :: [meter] ∧
      (registry.register { supply with nickname := none }).instruments = [supply, meter] ∧
      (registry.identify link "ASRL3::INSTR").1 =
        .error (.noResponse "ASRL3::INSTR" identityQuery) ∧
      (registry.identify link "ASRL3::INSTR").2.1 = registry ∧
      registry.setNickname? "dmm" scope.identity = none ∧
      (perform (registry, link) (.setNickname "dmm" scope.identity)).1 = registry := by
  intro supply meter scope link registry
  obtain ⟨-, -, new, known, failed, unknown⟩ :=
    run_resources link [.register supply, .register meter]
  have absent : "USB0::2::INSTR" ∉ registry.resources := by decide
  have refused : (registry.identify link "ASRL3::INSTR").1 =
    .error (.noResponse "ASRL3::INSTR" identityQuery) := by decide
  have nobody : registry.setNickname? "dmm" scope.identity = none := by decide
  exact ⟨absent, new scope absent, rfl,
    known { supply with nickname := none } [] supply [meter] rfl rfl, refused,
    failed link "ASRL3::INSTR" _ refused, nobody,
    congrArg Prod.fst (unknown link "dmm" scope.identity nobody)⟩

end InstrumentBench.Registry
