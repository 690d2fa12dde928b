import InstrumentBench.Catalog.Table
import InstrumentBench.Proofs.Outcome
import Mathlib.Data.List.Forall2

/-!
# What becomes of the rows of a sheet

Compiling a sheet divides its rows into three groups, each in the order of the sheet: blank
rows are skipped, of the others each gives the next command or the next warning, which tells
its number in the sheet.  `Table.ofSheet_rows` says so, and that no row has to do with
another: the rows of a sheet can be compiled in two parts.
-/

namespace InstrumentBench

/-- Numbered rows in three groups that keep their order.  Every row is in one group, as often
as it is among the rows. -/
structure RowGroups (rows : List (List String × Nat)) where
  blank : List (List String × Nat)
  listed : List (List String × Nat)
  refused : List (List String × Nat)
  blank_sublist : blank.Sublist rows
  listed_sublist : listed.Sublist rows
  refused_sublist : refused.Sublist rows
  whole : (blank ++ (listed ++ refused)).Perm rows

namespace RowGroups

/-- The groups of no rows. -/
def empty : RowGroups [] where
  blank := []
  listed := []
  refused := []
  blank_sublist := .slnil
  listed_sublist := .slnil
  refused_sublist := .slnil
  whole := .nil

variable {rows : List (List String × Nat)}

/-- The groups with a blank row before the others. -/
def skip (groups : RowGroups rows) (row : List String × Nat) : RowGroups (row :: rows) where
  blank := row :: groups.blank
  listed := groups.listed
  refused := groups.refused
  blank_sublist := groups.blank_sublist.cons_cons row
  listed_sublist := groups.listed_sublist.cons row
  refused_sublist := groups.refused_sublist.cons row
  whole := groups.whole.cons row

/-- The groups with a row before the others that gives a command. -/
def list (groups : RowGroups rows) (row : List String × Nat) : RowGroups (row :: rows) where
  blank := groups.blank
  listed := row :: groups.listed
  refused := groups.refused
  blank_sublist := groups.blank_sublist.cons row
  listed_sublist := groups.listed_sublist.cons_cons row
  refused_sublist := groups.refused_sublist.cons row
  whole := List.perm_middle.trans (groups.whole.cons row)

/-- The groups with a row before the others that gives a warning. -/
def refuse (groups : RowGroups rows) (row : List String × Nat) : RowGroups (row :: rows) where
  blank := groups.blank
  listed := groups.listed
  refused := row :: groups.refused
  blank_sublist := groups.blank_sublist.cons row
  listed_sublist := groups.listed_sublist.cons row
  refused_sublist := groups.refused_sublist.cons_cons row
  whole := by
    rw [← List.append_assoc]
    refine List.perm_middle.trans (List.Perm.cons row ?_)
    rw [List.append_assoc]
    exact groups.whole

/-- The groups account for commands and warnings: the rows of the first are blank, those of
the second compile to the commands, and those of the third do not compile and are warned of,
the row with the index 0 as row 2 of its sheet. -/
structure Accounts (groups : RowGroups rows) (sheet : String) (columns : Columns)
    (commands : List Definition) (warnings : List LoadWarning) : Prop where
  blank : ∀ row ∈ groups.blank, (columns.row row.1).isBlank
  listed : List.Forall₂
    (fun row command => ¬(columns.row row.1).isBlank ∧ (columns.row row.1).compile = .ok command)
    groups.listed commands
  refused : List.Forall₂
    (fun row warning => ¬(columns.row row.1).isBlank ∧
      ∃ error, (columns.row row.1).compile = .error error ∧
        warning = ⟨sheet, some (row.2 + 2), error⟩)
    groups.refused warnings

end RowGroups

/-- The warning about a row that stands further down by a number of rows. -/
def LoadWarning.lowered (count : Nat) (warning : LoadWarning) : LoadWarning :=
  { warning with row := warning.row.map (· + count) }

namespace Table

variable {sheet : String} {columns : Columns} {number : Nat} {cells : List String}
  {rest : List (List String)}

theorem compileRows_of_blank (blank : (columns.row cells).isBlank) :
    compileRows sheet columns number (cells :: rest) =
      compileRows sheet columns (number + 1) rest := by
  rw [compileRows]
  exact if_pos blank

theorem compileRows_of_ok {command : Definition} (some : ¬(columns.row cells).isBlank)
    (compiled : (columns.row cells).compile = .ok command) :
    compileRows sheet columns number (cells :: rest) =
      (command :: (compileRows sheet columns (number + 1) rest).1,
        (compileRows sheet columns (number + 1) rest).2) := by
  rw [compileRows]
  dsimp only
  rw [if_neg some, compiled]

theorem compileRows_of_error {error : DescriptorError} (some : ¬(columns.row cells).isBlank)
    (failed : (columns.row cells).compile = .error error) :
    compileRows sheet columns number (cells :: rest) =
      ((compileRows sheet columns (number + 1) rest).1,
        ⟨sheet, .some number, error⟩ :: (compileRows sheet columns (number + 1) rest).2) := by
  rw [compileRows]
  dsimp only
  rw [if_neg some, failed]

/-- A row is blank, or it compiles, or it does not. -/
theorem row_cases (columns : Columns) (cells : List String) :
    (columns.row cells).isBlank ∨ ¬(columns.row cells).isBlank ∧
      ((∃ command, (columns.row cells).compile = .ok command) ∨
        ∃ error, (columns.row cells).compile = .error error) := by
  by_cases blank : (columns.row cells).isBlank
  · exact .inl blank
  · cases (columns.row cells).compile with
    | ok command => exact .inr ⟨blank, .inl ⟨command, rfl⟩⟩
    | error error => exact .inr ⟨blank, .inr ⟨error, rfl⟩⟩

/-- The rows from an index on fall into groups that account for their commands and
warnings. -/
theorem exists_accounts (sheet : String) (columns : Columns) (rows : List (List String))
    (start : Nat) :
    ∃ groups : RowGroups (rows.zipIdx start),
      groups.Accounts sheet columns (compileRows sheet columns (start + 2) rows).1
        (compileRows sheet columns (start + 2) rows).2 := by
  induction rows generalizing start with
  | nil => exact ⟨.empty, List.forall_mem_nil _, .nil, .nil⟩
  | cons cells rest ih =>
    obtain ⟨groups, blank, listed, refused⟩ := ih (start + 1)
    have next : start + 1 + 2 = start + 2 + 1 := by omega
    rw [next] at listed refused
    rw [List.zipIdx_cons]
    rcases row_cases columns cells with empty | ⟨some, ⟨command, compiled⟩ | ⟨error, failed⟩⟩
    · rw [compileRows_of_blank empty]
      exact ⟨groups.skip (cells, start), List.forall_mem_cons.2 ⟨empty, blank⟩, listed, refused⟩
    · rw [compileRows_of_ok some compiled]
      exact ⟨groups.list (cells, start), blank, .cons ⟨some, compiled⟩ listed, refused⟩
    · rw [compileRows_of_error some failed]
      exact ⟨groups.refuse (cells, start), blank, listed,
        .cons ⟨some, error, failed, rfl⟩ refused⟩

/-- Rows that stand further down give the same commands, and the same warnings further
down. -/
theorem compileRows_lowered (sheet : String) (columns : Columns) (number count : Nat)
    (rows : List (List String)) :
    compileRows sheet columns (number + count) rows =
      ((compileRows sheet columns number rows).1,
        (compileRows sheet columns number rows).2.map (LoadWarning.lowered count)) := by
  induction rows generalizing number with
  | nil => rfl
  | cons cells rest ih =>
    have later := ih (number + 1)
    rw [Nat.add_right_comm] at later
    rcases row_cases columns cells with blank | ⟨some, ⟨command, compiled⟩ | ⟨error, failed⟩⟩
    · rw [compileRows_of_blank blank, compileRows_of_blank blank, later]
    · rw [compileRows_of_ok some compiled, compileRows_of_ok some compiled, later]
    · rw [compileRows_of_error some failed, compileRows_of_error some failed, later]
      rfl

/-- Rows after others are compiled apart from them. -/
theorem compileRows_append (sheet : String) (columns : Columns) (number : Nat)
    (first second : List (List String)) :
    compileRows sheet columns number (first ++ second) =
      ((compileRows sheet columns number first).1 ++
          (compileRows sheet columns number second).1,
        (compileRows sheet columns number first).2 ++
          (compileRows sheet columns number second).2.map (LoadWarning.lowered first.length)) := by
  have apart : compileRows sheet columns number (first ++ second) =
      ((compileRows sheet columns number first).1 ++
          (compileRows sheet columns (number + first.length) second).1,
        (compileRows sheet columns number first).2 ++
          (compileRows sheet columns (number + first.length) second).2) := by
    induction first generalizing number with
    | nil => rfl
    | cons cells rest ih =>
      have later := ih (number + 1)
      rw [Nat.add_assoc, Nat.add_comm 1] at later
      rw [List.cons_append, List.length_cons]
      rcases row_cases columns cells with blank | ⟨some, ⟨command, compiled⟩ | ⟨error, failed⟩⟩
      · rw [compileRows_of_blank blank, compileRows_of_blank blank, later]
      · rw [compileRows_of_ok some compiled, compileRows_of_ok some compiled, later]
        rfl
      · rw [compileRows_of_error some failed, compileRows_of_error some failed, later]
        rfl
  rw [apart, compileRows_lowered]

theorem ofSheet_of_resolve {sheet : Sheet} (resolved : Columns.resolve sheet.headers = .ok columns)
    (warnings : List LoadWarning) :
    ofSheet sheet warnings = .ok ⟨sheet.name, (compileRows sheet.name columns 2 sheet.rows).1,
      warnings ++ (compileRows sheet.name columns 2 sheet.rows).2⟩ := by
  rw [ofSheet, resolved]
  rfl

/-- The rows of a sheet with all columns fall into three groups: blank rows, rows that compile
to the commands of the table, and rows that do not compile, whose errors are the warnings
after those given.  A sheet whose rows are split in two has the commands of both parts, and
the warnings of both, those of the second part further down by the rows of the first. -/
theorem ofSheet_rows {sheet : Sheet} (resolved : Columns.resolve sheet.headers = .ok columns)
    (warnings : List LoadWarning) :
    ∃ commands found, ofSheet sheet warnings = .ok ⟨sheet.name, commands, warnings ++ found⟩ ∧
      (∃ groups : RowGroups sheet.rows.zipIdx,
        groups.Accounts sheet.name columns commands found) ∧
      ∀ first second, sheet.rows = first ++ second → ∃ front back,
        ofSheet { sheet with rows := first } warnings = .ok front ∧
        ofSheet { sheet with rows := second } [] = .ok back ∧
        commands = front.commands ++ back.commands ∧
        warnings ++ found =
          front.warnings ++ back.warnings.map (LoadWarning.lowered first.length) := by
  refine ⟨_, _, ofSheet_of_resolve resolved warnings,
    exists_accounts sheet.name columns sheet.rows 0, fun first second rows => ?_⟩
  have parts : ∀ rows, Columns.resolve ({ sheet with rows := rows } : Sheet).headers =
      .ok columns := fun _ => resolved
  refine ⟨_, _, ofSheet_of_resolve (parts first) warnings, ofSheet_of_resolve (parts second) [],
    ?_, ?_⟩
  case refine_1 => rw [rows, compileRows_append]
  case refine_2 => rw [rows, compileRows_append, List.nil_append, List.append_assoc]

/-- A sheet with a good row, a blank one, a row without cells, a bad one and a short one. -/
def mixedSheet : Sheet where
  name := "PSU"
  headers := ["cmd", " NAME ", "get/set", "Notes", "Parameters"]
  rows := [["VOLT {V}", "Voltage", "SET", "", "V:V.3f"], ["", " ", "", "spare"], [],
    ["OUTP \x7bS", "Output", "SET"], ["*IDN?", "Idn", "GET"]]

/-- The blank rows of the sheet count, and the bad row is row 5. -/
theorem ofSheet_rows_mixed :
    Columns.resolve mixedSheet.headers = .ok ⟨1, 2, 0, some 4⟩ ∧
      ∃ commands found, ofSheet mixedSheet [] = .ok ⟨"PSU", commands, found⟩ ∧
        (∃ groups : RowGroups mixedSheet.rows.zipIdx,
          groups.Accounts "PSU" ⟨1, 2, 0, some 4⟩ commands found) ∧
        found = [⟨"PSU", some 5, .malformedTemplate 5 .unclosed⟩] := by
  have resolved : Columns.resolve mixedSheet.headers = .ok ⟨1, 2, 0, some 4⟩ := by decide
  obtain ⟨commands, found, compiled, accounts, -⟩ := ofSheet_rows resolved []
  refine ⟨resolved, commands, found, compiled, accounts, ?_⟩
  have table : (ofSheet mixedSheet []).map Table.warnings =
      .ok [⟨"PSU", some 5, .malformedTemplate 5 .unclosed⟩] := by decide
  rw [compiled] at table
  exact Except.ok.inj table

end Table

end InstrumentBench
