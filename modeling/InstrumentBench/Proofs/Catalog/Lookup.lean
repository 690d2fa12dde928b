import InstrumentBench.Proofs.Catalog.Loading
import InstrumentBench.Session.Execution

/-!
# Commands looked up by their names

A command is looked up by its name without regard to case, and nothing keeps two rows of a
sheet from having the same name.  Of several namesakes the first one is found and executed;
the others are listed all the same.  `find?_name` says which command the name of a listed
command leads to, and `find?_name_shadowed` is a table with a command that its own name does
not lead to.
-/

namespace InstrumentBench

/-- A command goes by a name, the case of letters apart. -/
def Definition.GoesBy (definition : Definition) (name : String) : Prop :=
  Text.lowercased definition.name = Text.lowercased name

instance (definition : Definition) (name : String) : Decidable (definition.GoesBy name) :=
  inferInstanceAs (Decidable (Text.lowercased definition.name = Text.lowercased name))

/-- The name of a compiled command has no blanks around it. -/
theorem Row.trimmed_name_of_compile {row : Row} {definition : Definition}
    (compiled : row.compile = .ok definition) : Text.trimmed definition.name = definition.name := by
  have named := (compile_eq_ok.1 compiled).1
  rw [required] at named
  split at named
  next => cases named
  next =>
    rw [← Except.ok.inj named, Text.trimmed, Text.toList_trimmed, Text.trim_trim, ← Text.trimmed]

/-- Without a bare value the values are those given by name. -/
theorem Request.resolve_of_values (command : String) (values : Values) (definition : Definition) :
    (⟨command, values, none⟩ : Request).resolve definition = values := by
  rw [resolve]
  split
  next => rfl
  next => rfl

namespace Table

/-! ## Where the commands of a table come from -/

/-- Every command is compiled from a row. -/
theorem compile_of_mem_compileRows {sheet : String} {columns : Columns} {number : Nat}
    {rows : List (List String)} {command : Definition}
    (member : command ∈ (compileRows sheet columns number rows).1) :
    ∃ cells ∈ rows, (columns.row cells).compile = .ok command := by
  induction rows generalizing number with
  | nil => cases member
  | cons cells rest ih =>
    have later : command ∈ (compileRows sheet columns (number + 1) rest).1 →
        ∃ cells' ∈ cells :: rest, (columns.row cells').compile = .ok command := fun member =>
      let ⟨other, present, compiled⟩ := ih member
      ⟨other, List.mem_cons_of_mem cells present, compiled⟩
    rcases row_cases columns cells with blank | ⟨some, ⟨definition, compiled⟩ | ⟨error, failed⟩⟩
    · rw [compileRows_of_blank blank] at member
      exact later member
    · rw [compileRows_of_ok some compiled] at member
      rcases List.mem_cons.1 member with rfl | member
      · exact ⟨cells, List.mem_cons_self, compiled⟩
      · exact later member
    · rw [compileRows_of_error some failed] at member
      exact later member

/-- Every command of a loaded table is compiled from a row. -/
theorem compile_of_mem_loadTable {source : SheetSource} {model : String} {table : Table}
    {command : Definition} (loaded : loadTable source model = .ok (some table))
    (member : command ∈ table.commands) : ∃ row : Row, row.compile = .ok command := by
  rw [loadTable] at loaded
  split at loaded
  next => cases loaded
  next chosen ignored matched =>
    dsimp only at loaded
    split at loaded
    next => cases loaded
    next sheet read =>
      obtain ⟨compiled, ofSheet, same⟩ := Outcome.map_eq_ok.1 loaded
      cases same
      rw [Table.ofSheet] at ofSheet
      obtain ⟨columns, -, same⟩ := Outcome.bind_eq_ok.1 ofSheet
      obtain rfl := Outcome.pure_eq_ok.1 same
      obtain ⟨cells, -, compiled⟩ := compile_of_mem_compileRows member
      exact ⟨_, compiled⟩

/-! ## Which command a name leads to -/

/-- The first command of a table that goes by a name, and its position. -/
structure FirstNamed (table : Table) (name : String) (position : Nat) (command : Definition) :
    Prop where
  listed : table.commands[position]? = some command
  named : command.GoesBy name
  first : ∀ earlier < position, ∀ other, table.commands[earlier]? = some other →
    ¬other.GoesBy name

variable {table : Table} {name : String} {command : Definition}

/-- A look-up finds the first command that goes by the name, blanks around it apart. -/
theorem find?_eq_some_iff :
    table.find? name = some command ↔
      ∃ position, table.FirstNamed (Text.trimmed name) position command := by
  rw [find?, List.find?_eq_some_iff_getElem]
  constructor
  · rintro ⟨named, position, inside, rfl, first⟩
    refine ⟨position, List.getElem?_eq_getElem inside, by simpa [Definition.GoesBy] using named, ?_⟩
    intro earlier before other listed
    obtain ⟨_, rfl⟩ := List.getElem?_eq_some_iff.1 listed
    simpa [Definition.GoesBy] using first earlier before
  · rintro ⟨position, listed, named, first⟩
    obtain ⟨inside, rfl⟩ := List.getElem?_eq_some_iff.1 listed
    refine ⟨by simpa [Definition.GoesBy] using named, position, inside, rfl,
      fun earlier before => ?_⟩
    have apart := first earlier before _ (List.getElem?_eq_getElem (before.trans inside))
    simpa [Definition.GoesBy] using apart

/-- A command that goes by a name stands at the first position of that name or after it. -/
theorem exists_firstNamed {position : Nat} (listed : table.commands[position]? = some command)
    (named : command.GoesBy name) :
    ∃ first ≤ position, ∃ found, table.FirstNamed name first found := by
  induction position using Nat.strong_induction_on generalizing command with
  | _ position ih =>
    by_cases earlier : ∃ before < position, ∃ other, table.commands[before]? = some other ∧
        other.GoesBy name
    · obtain ⟨before, less, other, otherListed, otherNamed⟩ := earlier
      obtain ⟨first, le, found⟩ := ih before less otherListed otherNamed
      exact ⟨first, le.trans less.le, found⟩
    · push Not at earlier
      exact ⟨position, le_rfl, command, listed, named, earlier⟩

/-- The name of a listed command leads to the first command of that name, which is the
command itself, in its own place, exactly if no command above it has the same name but for
the case of letters.  That first command is the one that is executed when the name is asked
for. -/
theorem find?_name {source : SheetSource} {model : String} {position : Nat}
    (loaded : loadTable source model = .ok (some table))
    (listed : table.commands[position]? = some command) :
    ∃ first ≤ position, ∃ found, table.FirstNamed command.name first found ∧
      table.find? command.name = some found ∧
      (first = position ↔ ∀ earlier < position, ∀ other,
        table.commands[earlier]? = some other → ¬other.GoesBy command.name) ∧
      ∀ {channel : Type} [Transport channel] (session later : Session channel) (name : String)
        (instrument : Instrument) (values : Values),
        session.instrument name = .ok instrument →
        session.table instrument.identity.model = (.ok (some table), later) →
        session.execute name command.name values =
          match found.render values with
          | .error error => pure (.error (.render error), later)
          | .ok rendered => later.deliver instrument.resource rendered := by
  obtain ⟨row, compiled⟩ := compile_of_mem_loadTable loaded (List.mem_of_getElem? listed)
  have tight := Row.trimmed_name_of_compile compiled
  obtain ⟨first, le, found, firstNamed⟩ :=
    exists_firstNamed listed (rfl : command.GoesBy command.name)
  have lookedUp : table.find? command.name = some found := by
    rw [find?_eq_some_iff, tight]
    exact ⟨first, firstNamed⟩
  refine ⟨first, le, found, firstNamed, lookedUp, ?_, ?_⟩
  case refine_1 =>
    constructor
    · rintro rfl
      exact firstNamed.first
    · intro apart
      refine le.antisymm (not_lt.1 fun before => ?_)
      exact apart first before found firstNamed.listed firstNamed.named
  case refine_2 =>
    intro channel _ session later name instrument values known tabled
    rw [Session.execute, Session.request, known]
    dsimp only
    rw [Session.rendering, tabled]
    dsimp only
    rw [lookedUp]
    dsimp only
    rw [Request.resolve_of_values]
    cases found.render values <;> rfl

/-- A workbook with a query and a setting whose names differ in case only. -/
def namesakeBook : Workbook :=
  ⟨[{ name := "PSU"
      headers := ["Name", "GET/SET", "CMD"]
      rows := [["Output", "GET", "OUTP?"], ["OUTPUT", "SET", "OUTP ON"]] }]⟩

/-- The table with the query and the setting. -/
def namesakeTable : Table where
  model := "PSU"
  commands := [⟨"Output", .get, ⟨"OUTP?", [.literal "OUTP?"]⟩, []⟩,
    ⟨"OUTPUT", .set, ⟨"OUTP ON", [.literal "OUTP ON"]⟩, []⟩]
  warnings := []

theorem loadTable_namesakeBook :
    loadTable namesakeBook.source "psu" = .ok (some namesakeTable) := by
  decide

/-- The name of the setting leads to one of the two. -/
theorem find?_name_namesakes :
    ∃ command, namesakeTable.commands[1]? = some command ∧
      ∃ first ≤ 1, ∃ found, namesakeTable.FirstNamed command.name first found ∧
        namesakeTable.find? command.name = some found := by
  have listed : namesakeTable.commands[1]? = some _ := rfl
  obtain ⟨first, le, found, named, lookedUp, -⟩ := find?_name loadTable_namesakeBook listed
  exact ⟨_, listed, first, le, found, named, lookedUp⟩

/-- The name of the setting does not lead to it. -/
theorem find?_name_shadowed :
    ∃ command, loadTable namesakeBook.source "psu" = .ok (some namesakeTable) ∧
      namesakeTable.commands[1]? = some command ∧
      namesakeTable.find? command.name ≠ some command :=
  ⟨_, loadTable_namesakeBook, rfl, by decide⟩

end Table

end InstrumentBench
