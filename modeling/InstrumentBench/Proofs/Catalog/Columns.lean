import InstrumentBench.Proofs.Catalog.Rows
import Mathlib.Data.List.Basic
import Mathlib.Data.List.GetD
import Mathlib.Logic.Relation

/-!
# Where the columns of a sheet stand

The descriptor columns are found by their headers, so a sheet may be laid out in any way that
keeps the cells below those headers.  `Sheet.Edit` has the ways to lay a sheet out anew: its
columns change places, a column is put in that is no descriptor column, and rows end with more or
with fewer empty cells.  Each of them moves the columns of the sheet (`Sheet.Moved`), and a
descriptor column is found where it has moved to (`Sheet.Moved.resolve`).
-/

namespace InstrumentBench

namespace Sheet

variable {row : List String} {column : Nat}

theorem cellOf_of_length_le (outside : row.length ≤ column) : cellOf row column = "" :=
  List.getD_eq_default _ _ outside

theorem cellOf_of_lt (inside : column < row.length) : cellOf row column = row[column] :=
  List.getD_eq_getElem _ _ inside

theorem cellOf_append_of_lt {first : List String} (inside : column < first.length)
    (second : List String) : cellOf (first ++ second) column = cellOf first column :=
  List.getD_append _ _ _ _ inside

theorem cellOf_append_of_le {first : List String} (outside : first.length ≤ column)
    (second : List String) :
    cellOf (first ++ second) column = cellOf second (column - first.length) :=
  List.getD_append_right _ _ _ _ outside

theorem cellOf_drop (row : List String) (count column : Nat) :
    cellOf (row.drop count) column = cellOf row (count + column) := by
  rw [cellOf, cellOf, List.getD_eq_getElem?_getD, List.getD_eq_getElem?_getD, List.getElem?_drop]

/-- Empty cells at the end of a row change no cell. -/
theorem cellOf_append_replicate (row : List String) (count column : Nat) :
    cellOf (row ++ List.replicate count "") column = cellOf row column := by
  rcases Nat.lt_or_ge column row.length with inside | outside
  · exact cellOf_append_of_lt inside _
  · rw [cellOf_append_of_le outside, cellOf_of_length_le outside, cellOf,
      List.getD_eq_getElem?_getD, List.getElem?_getD_replicate_default_eq]

end Sheet

namespace Columns

variable {titles headers : List String} {header : String} {column other : Nat}

/-- A header is one of some titles, blanks around it and the case of letters apart. -/
def Titled (titles : List String) (header : String) : Prop :=
  ∃ title ∈ titles, Text.lowercased (Text.trimmed header) = Text.lowercased title

instance (titles : List String) (header : String) : Decidable (Titled titles header) :=
  inferInstanceAs (Decidable (∃ title ∈ titles, _))

/-- The titles of the columns that descriptors are read from. -/
def descriptorTitles : List String :=
  [Row.nameColumn, Row.directionColumn, Row.templateColumn] ++ parameterColumns

/-- Each descriptor column can be told by its header; only the one with the parameters may be
missing. -/
structure Headed (headers : List String) : Prop where
  name : headers.countP (Titled [Row.nameColumn] ·) = 1
  direction : headers.countP (Titled [Row.directionColumn] ·) = 1
  template : headers.countP (Titled [Row.templateColumn] ·) = 1
  parameters : headers.countP (Titled parameterColumns ·) ≤ 1

theorem Titled.mono {known : List String} (titled : Titled titles header)
    (subset : titles ⊆ known) : Titled known header := by
  obtain ⟨title, member, same⟩ := titled
  exact ⟨title, subset member, same⟩

theorem not_titled_empty (known : titles ⊆ descriptorTitles) : ¬Titled titles "" := by
  intro titled
  have none : ¬Titled descriptorTitles "" := by decide
  exact none (titled.mono known)

/-- Past the last header there is no descriptor column. -/
theorem lt_length_of_titled (known : titles ⊆ descriptorTitles)
    (titled : Titled titles (Sheet.cellOf headers column)) : column < headers.length := by
  by_contra outside
  rw [Sheet.cellOf_of_length_le (Nat.le_of_not_lt outside)] at titled
  exact not_titled_empty known titled

theorem countP_titled_pos (known : titles ⊆ descriptorTitles) :
    0 < headers.countP (Titled titles ·) ↔
      ∃ column, Titled titles (Sheet.cellOf headers column) := by
  simp only [List.countP_pos_iff, decide_eq_true_eq]
  constructor
  · rintro ⟨header, member, titled⟩
    obtain ⟨column, inside, rfl⟩ := List.mem_iff_getElem.1 member
    exact ⟨column, (Sheet.cellOf_of_lt inside).symm ▸ titled⟩
  · rintro ⟨column, titled⟩
    have inside := lt_length_of_titled known titled
    rw [Sheet.cellOf_of_lt inside] at titled
    exact ⟨_, List.getElem_mem inside, titled⟩

/-- Where at most one header has one of the titles, one column has. -/
theorem column_unique (known : titles ⊆ descriptorTitles)
    (one : headers.countP (Titled titles ·) ≤ 1)
    (first : Titled titles (Sheet.cellOf headers column))
    (second : Titled titles (Sheet.cellOf headers other)) : column = other := by
  induction headers generalizing column other with
  | nil => exact absurd first (not_titled_empty known)
  | cons header rest ih =>
    rw [List.countP_cons] at one
    -- the title of the first header leaves none for the others
    have alone : Titled titles header → ∀ column, ¬Titled titles (Sheet.cellOf rest column) := by
      intro titled column later
      have counted := (countP_titled_pos known).2 ⟨column, later⟩
      rw [if_pos (decide_eq_true titled)] at one
      omega
    cases column with
    | zero =>
      cases other with
      | zero => rfl
      | succ other => exact absurd second (alone first other)
    | succ column =>
      cases other with
      | zero => exact absurd first (alone second column)
      | succ other => exact congrArg (· + 1) (ih (by omega) first second)

/-- The first column that has one of the titles, the first title being preferred. -/
def place? (headers titles : List String) : Option Nat :=
  titles.findSome? (position? headers)

theorem titled_of_place? (placed : place? headers titles = some column) :
    Titled titles (Sheet.cellOf headers column) := by
  obtain ⟨title, member, found⟩ := List.exists_of_findSome?_eq_some placed
  obtain ⟨inside, same, -⟩ := List.findIdx?_eq_some_iff_getElem.1 found
  rw [Sheet.cellOf_of_lt inside]
  exact ⟨title, member, of_decide_eq_true same⟩

theorem place?_eq_none (known : titles ⊆ descriptorTitles) :
    place? headers titles = none ↔ ∀ column, ¬Titled titles (Sheet.cellOf headers column) := by
  constructor
  · rintro none column titled
    have inside := lt_length_of_titled known titled
    rw [Sheet.cellOf_of_lt inside] at titled
    obtain ⟨title, member, same⟩ := titled
    have missed := List.findIdx?_eq_none_iff.1 (List.findSome?_eq_none_iff.1 none title member)
      _ (List.getElem_mem inside)
    exact of_decide_eq_false missed same
  · intro untitled
    cases placed : place? headers titles with
    | none => rfl
    | some column => exact absurd (titled_of_place? placed) (untitled column)

theorem require_eq_ok {title : String} (placed : place? headers [title] = some column) :
    require headers title = .ok column := by
  have found : position? headers title = some column := by simpa [place?] using placed
  rw [require, found]

/-- The columns after a move. -/
def moved (columns : Columns) (move : Nat → Nat) : Columns :=
  ⟨move columns.name, move columns.direction, move columns.template,
    columns.parameters.map move⟩

/-- The descriptor cells of a row are those of a row with the same cells at other places. -/
theorem row_moved (columns : Columns) {move : Nat → Nat} {cells others : List String}
    (same : ∀ column, Sheet.cellOf others (move column) = Sheet.cellOf cells column) :
    (columns.moved move).row others = columns.row cells := by
  rw [row, row, moved]
  cases columns.parameters with
  | none => simp only [same, Option.map_none]
  | some column => simp only [same, Option.map_some]

end Columns

/-- The rows of a sheet matter by their descriptor cells. -/
theorem Table.compileRows_congr {sheet : String} {columns others : Columns}
    {rows moved : List (List String)} (number : Nat)
    (same : List.Forall₂ (fun cells other => others.row other = columns.row cells) rows moved) :
    compileRows sheet others number moved = compileRows sheet columns number rows := by
  induction same generalizing number with
  | nil => rfl
  | cons same _ ih => rw [compileRows, compileRows, ih, same]

namespace Sheet

/-- The columns of a sheet stand in another one, whose further columns are no descriptor
columns. -/
structure Moved (move : Nat → Nat) (sheet other : Sheet) : Prop where
  name : other.name = sheet.name
  headers : ∀ column, cellOf other.headers (move column) = cellOf sheet.headers column
  foreign : ∀ column, (∀ origin, move origin ≠ column) →
    ¬Columns.Titled Columns.descriptorTitles (cellOf other.headers column)
  rows : List.Forall₂ (fun cells others => ∀ column,
    cellOf others (move column) = cellOf cells column) sheet.rows other.rows

theorem forall₂_trans {near far through : List String → List String → Prop}
    (compose : ∀ {cells between others}, near cells between → far between others →
      through cells others)
    {rows middle final : List (List String)} (first : List.Forall₂ near rows middle)
    (second : List.Forall₂ far middle final) : List.Forall₂ through rows final := by
  induction first generalizing final with
  | nil =>
    cases second
    exact .nil
  | cons head _ ih =>
    cases second with
    | cons next rest => exact .cons (compose head next) (ih rest)

namespace Moved

variable {move after : Nat → Nat} {sheet between other : Sheet} {titles : List String}

theorem refl (sheet : Sheet) : Moved id sheet sheet where
  name := rfl
  headers := fun _ => rfl
  foreign := fun column away => absurd rfl (away column)
  rows := List.forall₂_same.2 fun _ _ _ => rfl

theorem trans (first : Moved move sheet between) (second : Moved after between other) :
    Moved (after ∘ move) sheet other where
  name := second.name.trans first.name
  headers := fun column => (second.headers (move column)).trans (first.headers column)
  foreign := by
    intro column away
    -- a column that the second move reaches was put in by the first one
    by_cases reached : ∃ middle, after middle = column
    · obtain ⟨middle, rfl⟩ := reached
      rw [second.headers]
      exact first.foreign middle fun origin same => away origin (congrArg after same)
    · exact second.foreign column fun middle same => reached ⟨middle, same⟩
  rows := forall₂_trans (fun same later column => (later (move column)).trans (same column))
    first.rows second.rows

/-- A column that has one of the titles after a move has come from one that has. -/
theorem exists_origin (moved : Moved move sheet other) (known : titles ⊆ Columns.descriptorTitles)
    {column : Nat} (titled : Columns.Titled titles (cellOf other.headers column)) :
    ∃ origin, move origin = column ∧ Columns.Titled titles (cellOf sheet.headers origin) := by
  by_contra none
  refine moved.foreign column (fun origin same => none ⟨origin, same, ?_⟩) (titled.mono known)
  rw [← moved.headers, same]
  exact titled

theorem place?_eq (moved : Moved move sheet other) (known : titles ⊆ Columns.descriptorTitles)
    (one : sheet.headers.countP (Columns.Titled titles ·) ≤ 1) :
    Columns.place? other.headers titles = (Columns.place? sheet.headers titles).map move := by
  cases placed : Columns.place? sheet.headers titles with
  | none =>
    refine (Columns.place?_eq_none known).2 fun column titled => ?_
    obtain ⟨origin, -, titled⟩ := moved.exists_origin known titled
    exact (Columns.place?_eq_none known).1 placed origin titled
  | some column =>
    have titled := Columns.titled_of_place? placed
    cases found : Columns.place? other.headers titles with
    | none =>
      rw [← moved.headers] at titled
      exact absurd titled ((Columns.place?_eq_none known).1 found _)
    | some target =>
      obtain ⟨origin, rfl, came⟩ := moved.exists_origin known (Columns.titled_of_place? found)
      rw [Columns.column_unique known one came titled]
      rfl

theorem require (moved : Moved move sheet other) {title : String}
    (known : title ∈ Columns.descriptorTitles)
    (one : sheet.headers.countP (Columns.Titled [title] ·) = 1) :
    ∃ column, Columns.require sheet.headers title = .ok column ∧
      Columns.require other.headers title = .ok (move column) := by
  have known : [title] ⊆ Columns.descriptorTitles := List.cons_subset.2 ⟨known, List.nil_subset _⟩
  have counted : 0 < sheet.headers.countP (Columns.Titled [title] ·) := one ▸ Nat.one_pos
  obtain ⟨column, titled⟩ := (Columns.countP_titled_pos known).1 counted
  cases placed : Columns.place? sheet.headers [title] with
  | none => exact absurd titled ((Columns.place?_eq_none known).1 placed column)
  | some column =>
    have found := moved.place?_eq known (Nat.le_of_eq one)
    rw [placed] at found
    exact ⟨column, Columns.require_eq_ok placed, Columns.require_eq_ok found⟩

/-- The descriptor columns of a sheet are found where they have moved to. -/
theorem resolve (moved : Moved move sheet other) (headed : Columns.Headed sheet.headers) :
    ∃ columns, Columns.resolve sheet.headers = .ok columns ∧
      Columns.resolve other.headers = .ok (columns.moved move) := by
  obtain ⟨name, named, nameMoved⟩ := moved.require (by decide) headed.name
  obtain ⟨direction, directed, directionMoved⟩ := moved.require (by decide) headed.direction
  obtain ⟨template, templated, templateMoved⟩ := moved.require (by decide) headed.template
  have parameters := moved.place?_eq (List.subset_append_right _ _) headed.parameters
  refine ⟨⟨name, direction, template, Columns.place? sheet.headers Columns.parameterColumns⟩,
    ?_, ?_⟩
  · rw [Columns.resolve, named, directed, templated]
    rfl
  · rw [Columns.resolve, nameMoved, directionMoved, templateMoved, Columns.moved, ← parameters]
    rfl

/-- A move changes nothing about the table of a sheet. -/
theorem ofSheet (moved : Moved move sheet other) (headed : Columns.Headed sheet.headers)
    (warnings : List LoadWarning) :
    ∃ table, Table.ofSheet sheet warnings = .ok table ∧
      Table.ofSheet other warnings = .ok table := by
  obtain ⟨columns, resolved, resolvedMoved⟩ := moved.resolve headed
  refine ⟨_, Table.ofSheet_of_resolve resolved warnings, ?_⟩
  have same : List.Forall₂ (fun cells others =>
      (columns.moved move).row others = columns.row cells) sheet.rows other.rows :=
    moved.rows.imp fun _ _ same => columns.row_moved same
  rw [Table.ofSheet_of_resolve resolvedMoved, moved.name, Table.compileRows_congr 2 same]

end Moved

/-! ## Laying out a sheet anew -/

/-- A row with its first cells in an order of columns; a short row is filled up first. -/
def arranged (order : List Nat) (row : List String) : List String :=
  order.map (cellOf row) ++ row.drop order.length

/-- A row with a cell put in before a column; a short row is filled up first. -/
def widened (column : Nat) (cell : String) (row : List String) : List String :=
  (List.range column).map (cellOf row) ++ cell :: row.drop column

/-- One of two rows is the other one with empty cells after it. -/
def Padded (row other : List String) : Prop :=
  ∃ count, other = row ++ List.replicate count "" ∨ row = other ++ List.replicate count ""

/-- The ways to lay out a sheet anew. -/
inductive Edit : Sheet → Sheet → Prop where
  | arrange {order : List Nat} (permutes : order.Perm (List.range order.length))
      (name : String) (headers : List String) (rows : List (List String)) :
      Edit ⟨name, headers, rows⟩ ⟨name, arranged order headers, rows.map (arranged order)⟩
  | insert {header : String} (foreign : ¬Columns.Titled Columns.descriptorTitles header)
      (column : Nat) {rows wider : List (List String)}
      (cells : List.Forall₂ (fun row wide => ∃ cell, wide = widened column cell row) rows wider)
      (name : String) (headers : List String) :
      Edit ⟨name, headers, rows⟩ ⟨name, widened column header headers, wider⟩
  | pad {rows padded : List (List String)} (cells : List.Forall₂ Padded rows padded)
      (name : String) (headers : List String) :
      Edit ⟨name, headers, rows⟩ ⟨name, headers, padded⟩

section Cells

variable {order : List Nat} {column target : Nat}

theorem cellOf_arranged_of_lt (row : List String) (inside : column < order.length) :
    cellOf (arranged order row) column = cellOf row order[column] := by
  have mapped : column < (order.map (cellOf row)).length := by rwa [List.length_map]
  rw [arranged, cellOf_append_of_lt mapped, cellOf_of_lt mapped, List.getElem_map]

theorem cellOf_arranged_of_le (row : List String) (outside : order.length ≤ column) :
    cellOf (arranged order row) column = cellOf row column := by
  have mapped : (order.map (cellOf row)).length ≤ column := by rwa [List.length_map]
  rw [arranged, cellOf_append_of_le mapped, cellOf_drop, List.length_map,
    Nat.add_sub_cancel' outside]

/-- Where a column goes when the columns are arranged. -/
def arrangement (order : List Nat) (column : Nat) : Nat :=
  if column < order.length then order.idxOf column else column

theorem cellOf_arrangement (permutes : order.Perm (List.range order.length)) (row : List String)
    (column : Nat) : cellOf (arranged order row) (arrangement order column) = cellOf row column := by
  rw [arrangement]
  split
  next inside =>
    have member : column ∈ order := permutes.mem_iff.2 (List.mem_range.2 inside)
    have placed := List.idxOf_lt_length_of_mem member
    rw [cellOf_arranged_of_lt row placed, List.getElem_idxOf placed]
  next outside => exact cellOf_arranged_of_le row (Nat.le_of_not_lt outside)

/-- Every column of the arranged sheet comes from one. -/
theorem exists_arrangement_eq (permutes : order.Perm (List.range order.length)) (target : Nat) :
    ∃ column, arrangement order column = target := by
  rcases Nat.lt_or_ge target order.length with inside | outside
  · have bounded : order[target] < order.length :=
      List.mem_range.1 (permutes.mem_iff.1 (List.getElem_mem inside))
    refine ⟨order[target], ?_⟩
    rw [arrangement, if_pos bounded]
    exact (permutes.nodup_iff.2 List.nodup_range).idxOf_getElem target inside
  · exact ⟨target, if_neg (Nat.not_lt.2 outside)⟩

/-- Where a column goes when another one is put in. -/
def insertion (column other : Nat) : Nat :=
  if other < column then other else other + 1

theorem cellOf_widened_self (column : Nat) (cell : String) (row : List String) :
    cellOf (widened column cell row) column = cell := by
  have started : ((List.range column).map (cellOf row)).length = column := by simp
  rw [widened, cellOf_append_of_le (Nat.le_of_eq started), started, Nat.sub_self]
  rfl

theorem cellOf_insertion (column : Nat) (cell : String) (row : List String) (other : Nat) :
    cellOf (widened column cell row) (insertion column other) = cellOf row other := by
  have started : ((List.range column).map (cellOf row)).length = column := by simp
  rw [insertion, widened]
  split
  next before =>
    have inside := started.symm ▸ before
    rw [cellOf_append_of_lt inside, cellOf_of_lt inside, List.getElem_map, List.getElem_range]
  next behind =>
    have outside : ((List.range column).map (cellOf row)).length ≤ other + 1 := by omega
    obtain ⟨further, rfl⟩ := Nat.exists_eq_add_of_le (Nat.le_of_not_lt behind)
    rw [cellOf_append_of_le outside, started, Nat.add_assoc, Nat.add_sub_cancel_left]
    exact cellOf_drop row column further

theorem eq_of_not_insertion (away : ∀ other, insertion column other ≠ target) :
    target = column := by
  rcases Nat.lt_trichotomy target column with before | same | behind
  · exact absurd (if_pos before) (away target)
  · exact same
  · obtain ⟨further, rfl⟩ := Nat.exists_eq_add_of_lt behind
    exact absurd (if_neg (by omega)) (away (column + further))

theorem cellOf_padded {row other : List String} (padded : Padded row other) (column : Nat) :
    cellOf other column = cellOf row column := by
  obtain ⟨count, rfl | rfl⟩ := padded
  · exact cellOf_append_replicate row count column
  · exact (cellOf_append_replicate other count column).symm

end Cells

/-- To lay out a sheet anew is to move its columns. -/
theorem Edit.moved {sheet other : Sheet} (edit : Edit sheet other) :
    ∃ move, Moved move sheet other := by
  cases edit with
  | arrange permutes name headers rows =>
    refine ⟨_, rfl, cellOf_arrangement permutes headers, fun column away => ?_, ?_⟩
    · obtain ⟨origin, same⟩ := exists_arrangement_eq permutes column
      exact absurd same (away origin)
    · exact List.forall₂_map_right_iff.2 (List.forall₂_same.2 fun row _ =>
        cellOf_arrangement permutes row)
  | insert foreign column cells name headers =>
    refine ⟨_, rfl, cellOf_insertion column _ headers, fun target away => ?_, ?_⟩
    · rw [eq_of_not_insertion away, cellOf_widened_self]
      exact foreign
    · refine cells.imp ?_
      rintro row wide ⟨cell, rfl⟩
      exact cellOf_insertion column cell row
  | pad cells name headers =>
    exact ⟨id, rfl, fun _ => rfl, fun column away => absurd rfl (away column),
      cells.imp fun _ _ => cellOf_padded⟩

theorem exists_moved {sheet other : Sheet} (edits : Relation.ReflTransGen Edit sheet other) :
    ∃ move, Moved move sheet other := by
  induction edits with
  | refl => exact ⟨id, .refl sheet⟩
  | tail _ edit ih =>
    obtain ⟨move, moved⟩ := ih
    obtain ⟨after, later⟩ := edit.moved
    exact ⟨after ∘ move, moved.trans later⟩

end Sheet

/-- A sheet in which the descriptor columns can be told by their headers has a table.  It has the
same table, warnings included, when its columns change places, when columns are put in that are
no descriptor columns, and when its rows end with more or with fewer empty cells. -/
theorem Table.ofSheet_edits {sheet other : Sheet} (headed : Columns.Headed sheet.headers)
    (edits : Relation.ReflTransGen Sheet.Edit sheet other) (warnings : List LoadWarning) :
    ∃ table, ofSheet sheet warnings = .ok table ∧ ofSheet other warnings = .ok table := by
  obtain ⟨move, moved⟩ := Sheet.exists_moved edits
  exact moved.ofSheet headed warnings

namespace Sheet

/-- A sheet with a row that compiles, one without parameters and one that does not compile. -/
def plainSheet : Sheet where
  name := "PSU"
  headers := ["Name", "CMD", "Get/Set", "Parameter"]
  rows := [["Voltage", "VOLT \x7bV\x7d", "SET", "V:V.3f"], ["Idn", "*IDN?", "GET"],
    ["Output", "OUTP \x7bS", "SET", "", ""]]

/-- The sheet with the columns in another order, with a column of notes, and with the last
row cut. -/
def notedSheet : Sheet where
  name := "PSU"
  headers := ["Get/Set", "Notes", "Name", "Parameter", "CMD"]
  rows := [["SET", "slow", "Voltage", "V:V.3f", "VOLT \x7bV\x7d"],
    ["GET", "", "Idn", "", "*IDN?", ""], ["SET", "", "Output", "", "OUTP \x7bS"]]

end Sheet

/-- Turned, widened and cut, the plain sheet is the one with the notes. -/
theorem Table.ofSheet_edits_noted :
    Columns.Headed Sheet.plainSheet.headers ∧
      Relation.ReflTransGen Sheet.Edit Sheet.plainSheet Sheet.notedSheet ∧
      ∃ table, ofSheet Sheet.plainSheet [] = .ok table ∧
        ofSheet Sheet.notedSheet [] = .ok table := by
  have headed : Columns.Headed Sheet.plainSheet.headers := by
    constructor <;> decide
  have foreign : ¬Columns.Titled Columns.descriptorTitles "Notes" := by decide
  let turned : Sheet := ⟨"PSU", ["Get/Set", "Name", "Parameter", "CMD"],
    [["SET", "Voltage", "V:V.3f", "VOLT \x7bV\x7d"], ["GET", "Idn", "", "*IDN?"],
      ["SET", "Output", "", "OUTP \x7bS", ""]]⟩
  let wide : Sheet := ⟨"PSU", ["Get/Set", "Notes", "Name", "Parameter", "CMD"],
    [["SET", "slow", "Voltage", "V:V.3f", "VOLT \x7bV\x7d"], ["GET", "", "Idn", "", "*IDN?"],
      ["SET", "", "Output", "", "OUTP \x7bS", ""]]⟩
  have arranged : Sheet.Edit Sheet.plainSheet turned :=
    @Sheet.Edit.arrange [2, 0, 3, 1] (by decide) _ _ _
  have inserted : Sheet.Edit turned wide :=
    .insert foreign 1 (.cons ⟨"slow", rfl⟩ (.cons ⟨"", rfl⟩ (.cons ⟨"", rfl⟩ .nil))) _ _
  have ends : List.Forall₂ Sheet.Padded wide.rows Sheet.notedSheet.rows :=
    .cons ⟨0, .inl rfl⟩ (.cons ⟨1, .inl rfl⟩ (.cons ⟨1, .inr rfl⟩ .nil))
  have cut : Sheet.Edit wide Sheet.notedSheet := .pad ends _ _
  have edits := ((Relation.ReflTransGen.single arranged).tail inserted).tail cut
  exact ⟨headed, edits, ofSheet_edits headed edits []⟩

end InstrumentBench
