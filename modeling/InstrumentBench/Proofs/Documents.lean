import InstrumentBench.Configuration
import InstrumentBench.History.Document
import InstrumentBench.Instrument.Document
import InstrumentBench.Proofs.Json.Decoder
import InstrumentBench.Workbook

/-!
# Documents are read back

Whatever is both written to documents and read from them is restored by its own
decoder, field by field, so that what is printed of it decodes to an equal value, on
one line or spread over several (`documents_read_back`).
-/

namespace InstrumentBench

open Json Json.Decoder

variable (room : Nat)

theorem restores_optionString (text : Option String) :
    Restores (nullable string) room (.option .string text) text :=
  restores_option rfl fun text _ => restores_string room text

/-! ## Commands -/

theorem Direction.restores (direction : Direction) :
    Restores Direction.decode room direction.encode direction := by
  apply restores_oneOf
  cases direction <;> decide

theorem Rendered.restores (rendered : Rendered) :
    Restores Rendered.decode (room + 1) rendered.encode rendered := by
  have text := restores_string room rendered.text
  have direction := rendered.direction.restores room
  have template := restores_string room rendered.template
  constructor
  · apply Value.readable_object.mpr
    simp [text.readable, direction.readable, template.readable]
  · rw [encode, decode, fields?_object]
    · simp [text.required, direction.required, template.required]
    · rfl
    · decide

/-- A rendered command is read back with its members in order as well. -/
theorem Rendered.restores_sorted (rendered : Rendered) :
    Restores Rendered.decode (room + 1) rendered.encode.sorted rendered := by
  apply Restores.sorted (rendered.restores room)
  · exact (by decide : ["text", "direction", "template"].Nodup)
  · simp [Value.sorted, Direction.encode]
  · intro others same
    simp only [decode, fields?_perm same]

theorem Request.restores (request : Request) :
    Restores Request.decode (room + 2) request.encode request := by
  have command := restores_string (room + 1) request.command
  have values : Restores (Decoder.bindings string) (room + 1) request.values.encode
      request.values := restores_bindings fun entry _ => restores_string room entry.2
  have value := restores_optionString (room + 1) request.value
  constructor
  · apply Value.readable_object.mpr
    simp [command.readable, values.readable, value.readable]
  · rw [encode, decode, fields?_object]
    · simp [command.required, values.defaulted, value.defaulted]
    · rfl
    · decide

namespace Control

section Tagged

variable {room} {kind : String} {names : List String} {members : List (String × Value)}

/-- The members of a control without its kind. -/
theorem filter_keyedTrees (named : members.map Prod.fst = names)
    (distinct : ("control" :: names).Nodup) :
    (keyedTrees (("control", .string kind) :: members)).filter (·.1 ≠ "control") =
      keyedTrees members := by
  rw [keyedTrees, List.map_cons, List.filter_cons_of_neg (by simp)]
  apply List.filter_eq_self.mpr
  intro entry among
  obtain ⟨member, found, entered⟩ := List.mem_map.mp among
  have other : member.1 ≠ "control" := by
    intro same
    apply (List.nodup_cons.mp distinct).1
    rw [← named, ← same]
    exact List.mem_map_of_mem found
  rw [← entered]
  simpa using other

/-- The kind of a control is read off its first member, if the others can be read
back. -/
theorem kind?_object (named : members.map Prod.fst = names)
    (distinct : ("control" :: names).Nodup)
    (readable : ∀ member ∈ members, member.2.Readable room) :
    kind? room (Value.object (("control", .string kind) :: members)).tree = some kind := by
  have keys : (keyedTrees (("control", .string kind) :: members)).map Prod.fst =
      "control" :: names := by
    rw [← named, keyedTrees, List.map_map]
    rfl
  have values : (keyedTrees members).mapM (fun member => member.2.value? room) =
      some (members.map fun member => member.2.sorted) := by
    rw [keyedTrees, List.mapM_map]
    exact mapM_eq_some_map fun member found => Value.value?_tree (readable member found)
  have others := @filter_keyedTrees kind names members named distinct
  rw [← keys] at distinct
  have first : field? (keyedTrees (("control", .string kind) :: members)) "control" =
      some (.given (.string (writtenUnits kind))) := field?_of_mem distinct List.mem_cons_self
  rw [Value.tree, kind?, keyed?_memberTrees]
  simp only [Option.bind_eq_bind, Option.bind_some, others, values, first]
  exact text?_writtenUnits kind

/-- The fields after the kind are found in the other members. -/
theorem fieldsAfterKind?_object (named : members.map Prod.fst = names)
    (distinct : ("control" :: names).Nodup) :
    fieldsAfterKind? names room (Value.object (("control", .string kind) :: members)).tree =
      some (members.map fun member => .given member.2.tree) := by
  rw [Value.tree, fieldsAfterKind?, keyed?_memberTrees]
  simp only [Option.bind_eq_bind, Option.bind_some, filter_keyedTrees named distinct]
  exact mapM_field?_keyedTrees named (List.nodup_cons.mp distinct).2

end Tagged

/-- The count of decimal places of a control is a word of 32 bits. -/
def Sized : Control → Prop
  | textEntry _ _ places => ∀ count ∈ places, count < Nat.pow 2 32
  | selector .. => True

theorem restores {control : Control} (sized : control.Sized) :
    Restores Control.decode (room + 2) control.encode control := by
  cases control with
  | textEntry parameter hint places =>
    have entered := restores_string (room + 1) parameter
    have hinted := restores_string (room + 1) hint
    have counted : Restores (nullable (word 32)) (room + 1) (.option .nat places) places :=
      restores_option rfl fun count found => restores_word (by decide) (sized count found) _
    have fields : ∀ member ∈ [("parameter", Value.string parameter), ("hint", .string hint),
        ("decimals", .option .nat places)], member.2.Readable (room + 1) := by
      simp [entered.readable, hinted.readable, counted.readable]
    constructor
    · apply Value.readable_object.mpr
      exact List.forall_mem_cons.mpr ⟨trivial, fields⟩
    · rw [encode, decode, kind?_object rfl (by simp) fields]
      simp only [Option.bind_eq_bind, Option.bind_some, if_pos]
      rw [fieldsAfterKind?_object]
      · simp [entered.required, hinted.required, counted.optional]
      · rfl
      · decide
  | selector parameter options default =>
    have selected := restores_string (room + 1) parameter
    have listed := restores_strings room options
    have chosen := restores_optionString (room + 1) default
    have fields : ∀ member ∈ [("parameter", Value.string parameter), ("options", .strings options),
        ("default", .option .string default)], member.2.Readable (room + 1) := by
      simp [selected.readable, listed.readable, chosen.readable]
    constructor
    · apply Value.readable_object.mpr
      exact List.forall_mem_cons.mpr ⟨trivial, fields⟩
    · rw [encode, decode, kind?_object rfl (by simp) fields]
      simp only [Option.bind_eq_bind, Option.bind_some]
      rw [if_neg (by decide), if_pos trivial, fieldsAfterKind?_object]
      · simp [selected.required, listed.required, chosen.optional]
      · rfl
      · decide

end Control

theorem Layout.restores {layout : Layout} (sized : ∀ control ∈ layout.controls, control.Sized) :
    Restores Layout.decode (room + 4) layout.encode layout := by
  have command := restores_string (room + 3) layout.command
  have direction := layout.direction.restores (room + 3)
  have template := restores_string (room + 3) layout.template
  have fires := restores_bool (room + 3) layout.firesImmediately
  have controls := restores_list fun control member =>
    Control.restores room (sized control member)
  constructor
  · apply Value.readable_object.mpr
    simp [command.readable, direction.readable, template.readable, fires.readable,
      controls.readable]
  · rw [encode, decode, fields?_object]
    · simp [command.required, direction.required, template.required, fires.required,
        controls.required]
    · rfl
    · decide

/-! ## Instruments and histories -/

theorem DeviceKind.restores (kind : DeviceKind) :
    Restores DeviceKind.decode room kind.encode kind := by
  apply restores_oneOf
  cases kind <;> decide

theorem Identity.restores (identity : Identity) :
    Restores Identity.decode (room + 1) identity.encode identity := by
  have vendor := restores_string room identity.vendor
  have model := restores_string room identity.model
  have serial := restores_string room identity.serial
  constructor
  · apply Value.readable_object.mpr
    simp [vendor.readable, model.readable, serial.readable]
  · rw [encode, decode, fields?_object]
    · simp [vendor.required, model.required, serial.required]
    · rfl
    · decide

theorem Instrument.restores (instrument : Instrument) :
    Restores Instrument.decode (room + 2) instrument.encode instrument := by
  have resource := restores_string (room + 1) instrument.resource
  have kind := instrument.kind.restores (room + 1)
  have identity := instrument.identity.restores room
  have nickname := restores_optionString (room + 1) instrument.nickname
  constructor
  · apply Value.readable_object.mpr
    simp [resource.readable, kind.readable, identity.readable, nickname.readable]
  · rw [encode, decode, fields?_object]
    · simp [resource.required, kind.required, identity.required, nickname.optional]
    · rfl
    · decide

theorem Entry.restores {entry : Entry} (sized : entry.millis < Nat.pow 2 64) :
    Restores Entry.decode (room + 1) entry.encode entry := by
  have millis := restores_word (Nat.le_refl 64) sized room
  have direction := entry.direction.restores room
  have resource := restores_string room entry.resource
  have text := restores_string room entry.text
  have response := restores_optionString room entry.response
  constructor
  · apply Value.readable_object.mpr
    simp [millis.readable, direction.readable, resource.readable, text.readable,
      response.readable]
  · rw [encode, decode, fields?_object]
    · simp [millis.required, direction.required, resource.required, text.required,
        response.optional]
    · rfl
    · decide

/-- An entry is read back with its members in order as well. -/
theorem Entry.restores_sorted {entry : Entry} (sized : entry.millis < Nat.pow 2 64) :
    Restores Entry.decode (room + 1) entry.encode.sorted entry := by
  have response : (Value.option .string entry.response).sorted =
      .option .string entry.response := by
    cases entry.response <;> rfl
  apply Restores.sorted (Entry.restores room sized)
  · exact (by decide :
      ["timestamp_ms", "direction", "resource", "sent_text", "response"].Nodup)
  · simp [Value.sorted, Value.nat, Direction.encode, response]
  · intro others same
    simp only [decode, fields?_perm same]

/-! ## Workbooks and settings -/

theorem Sheet.restores (sheet : Sheet) :
    Restores Sheet.decode (room + 3) sheet.encode sheet := by
  have name := restores_string (room + 2) sheet.name
  have headers := restores_strings (room + 1) sheet.headers
  have cell : ∀ text, Restores (fun room tree => (tree.value? room).map cellText) room
      (.string text) text := by
    intro text
    have readable : (Value.string text).Readable room := trivial
    constructor
    · exact readable
    · rw [Value.value?_tree readable]
      rfl
  have rows : Restores (list (list fun room tree => (tree.value? room).map cellText)) (room + 2)
      (.array (sheet.rows.map .strings)) sheet.rows :=
    restores_list fun row _ => restores_list fun text _ => cell text
  constructor
  · apply Value.readable_object.mpr
    simp [name.readable, headers.readable, rows.readable]
  · rw [encode, decode, fields?_object]
    · simp [name.required, headers.defaulted, rows.defaulted]
    · rfl
    · decide

theorem Workbook.restores (workbook : Workbook) :
    Restores Workbook.decode (room + 5) workbook.encode workbook := by
  have sheets : Restores (list Sheet.decode) (room + 4) (.array (workbook.sheets.map Sheet.encode))
      workbook.sheets := restores_list fun sheet _ => sheet.restores room
  constructor
  · apply Value.readable_object.mpr
    simp [sheets.readable]
  · rw [encode, decode, fields?_object]
    · simp [sheets.required]
    · rfl
    · decide

theorem Settings.restores {settings : Settings} (sized : settings.version < Nat.pow 2 32) :
    Restores Settings.decode (room + 1) settings.encode settings := by
  have version := restores_word (by decide) sized room
  have workbook := restores_optionString room settings.workbook
  have audit := restores_bool room settings.audit
  constructor
  · apply Value.readable_object.mpr
    simp [version.readable, workbook.readable, audit.readable]
  · rw [encode, decode, fields?_object]
    · simp [version.required, workbook.defaulted, audit.defaulted]
    · rfl
    · decide

/-! ## Everything that documents bring in -/

/-- Whatever documents bring in is read back from both printed texts of what it is
written as.  Its numbers are the words of 64 and of 32 bits. -/
theorem documents_read_back :
    (∀ workbook : Workbook, ReadsBack Workbook.decode workbook.encode workbook) ∧
    (∀ sheet : Sheet, ReadsBack Sheet.decode sheet.encode sheet) ∧
    (∀ direction : Direction, ReadsBack Direction.decode direction.encode direction) ∧
    (∀ kind : DeviceKind, ReadsBack DeviceKind.decode kind.encode kind) ∧
    (∀ identity : Identity, ReadsBack Identity.decode identity.encode identity) ∧
    (∀ instrument : Instrument, ReadsBack Instrument.decode instrument.encode instrument) ∧
    (∀ entry : Entry, entry.millis < Nat.pow 2 64 → ReadsBack Entry.decode entry.encode entry) ∧
    (∀ rendered : Rendered, ReadsBack Rendered.decode rendered.encode rendered) ∧
    (∀ request : Request, ReadsBack Request.decode request.encode request) ∧
    (∀ control : Control, control.Sized → ReadsBack Control.decode control.encode control) ∧
    (∀ layout : Layout, (∀ control ∈ layout.controls, control.Sized) →
      ReadsBack Layout.decode layout.encode layout) ∧
    (∀ settings : Settings, settings.version < Nat.pow 2 32 →
      ReadsBack Settings.decode settings.encode settings) := by
  constructor
  · intro workbook
    exact (workbook.restores 122).readsBack
  constructor
  · intro sheet
    exact (sheet.restores 124).readsBack
  constructor
  · intro direction
    exact (direction.restores 127).readsBack
  constructor
  · intro kind
    exact (kind.restores 127).readsBack
  constructor
  · intro identity
    exact (identity.restores 126).readsBack
  constructor
  · intro instrument
    exact (instrument.restores 125).readsBack
  constructor
  · intro entry sized
    exact (Entry.restores 126 sized).readsBack
  constructor
  · intro rendered
    exact (rendered.restores 126).readsBack
  constructor
  · intro request
    exact (request.restores 125).readsBack
  constructor
  · intro control sized
    exact (Control.restores 125 sized).readsBack
  constructor
  · intro layout sized
    exact (Layout.restores 123 sized).readsBack
  · intro settings sized
    exact (Settings.restores 126 sized).readsBack

/-- The last moment there is, control characters, and a layout with the most decimal
places. -/
theorem documents_read_back_extreme :
    let entry : Entry := ⟨18446744073709551615, .get, "\x00\"\\\x7f", "*IDN?", some "\r\n"⟩
    let control : Control := .textEntry "V" "volts" (some 4294967295)
    let layout : Layout := ⟨"set", .set, "V {V}", false, [control, .selector "CH" ["1"] none]⟩
    let settings : Settings := ⟨4294967295, some "a b.json", false⟩
    entry.millis < Nat.pow 2 64 ∧ ReadsBack Entry.decode entry.encode entry ∧
      control.Sized ∧ ReadsBack Control.decode control.encode control ∧
      (∀ control ∈ layout.controls, control.Sized) ∧
      ReadsBack Layout.decode layout.encode layout ∧
      settings.version < Nat.pow 2 32 ∧ ReadsBack Settings.decode settings.encode settings := by
  intro entry control layout settings
  obtain ⟨_, _, _, _, _, _, entries, _, _, controls, layouts, all⟩ := documents_read_back
  have moment : entry.millis < Nat.pow 2 64 := by decide
  have places : control.Sized := by
    intro count found
    cases found
    decide
  have both : ∀ control ∈ layout.controls, control.Sized := by
    intro other member
    rcases List.mem_cons.mp member with first | second
    · subst first
      exact places
    · cases List.mem_singleton.mp second
      exact trivial
  have version : settings.version < Nat.pow 2 32 := by decide
  exact ⟨moment, entries entry moment, places, controls control places, both,
    layouts layout both, version, all settings version⟩

end InstrumentBench
