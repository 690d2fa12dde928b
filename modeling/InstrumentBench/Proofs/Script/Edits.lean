import InstrumentBench.Proofs.Script.Acceptance
import Mathlib.Logic.Relation

/-!
# Edits that a script survives

A script may be laid out anew without sending anything else: its line ends may be those of another
system, blanks may stand around its lines, and blank lines and comments between them
(`read_edited`).  All of these leave alone what is written on the lines that do something, and
nothing else decides what a script sends (`readFrom_busy`).
-/

namespace InstrumentBench.Script

/-! ## Lines that do something -/

/-- Whether a line, without the blanks around it, does something. -/
def isBusy (line : List Char) : Bool :=
  !Statement.isIdle line

/-- The lines of a source that do something, without the blanks around them. -/
def busyLines (source : String) : List (List Char) :=
  (trimmedLines source).filter isBusy

theorem read_of_not_isBusy {line : List Char} (idle : isBusy line = false) :
    Statement.read line = .ok .nothing := by
  have isIdle : Statement.isIdle line = true := by simpa [isBusy] using idle
  rw [Statement.read, if_pos isIdle]

/-- What lines send depends on those that do something only, wherever they stand. -/
theorem readFrom_busy {raws : List (List Char)} {handles : Bindings String} {steps : List Step}
    (number start : Nat) :
    readFrom number handles raws = .ok steps ↔
      readFrom start handles ((raws.map Text.trim).filter isBusy) = .ok steps := by
  induction raws generalizing handles steps number start with
  | nil => exact Iff.rfl
  | cons raw rest ih =>
    rw [List.map_cons]
    cases busy : isBusy (Text.trim raw) with
    | false =>
      rw [List.filter_cons_of_neg (by simp [busy]), readFrom, read_of_not_isBusy busy]
      exact ih (number + 1) start
    | true =>
      rw [List.filter_cons_of_pos busy, readFrom, readFrom, Text.trim_trim]
      cases Statement.read (Text.trim raw) with
      | error fault => simp
      | ok statement =>
        cases statement with
        | nothing => exact ih (number + 1) (start + 1)
        | opens handle resource => exact ih (number + 1) (start + 1)
        | sends handle direction text =>
          dsimp only
          cases handles.find? handle with
          | none => simp
          | some resource =>
            simp only [Outcome.bind_eq_ok]
            exact exists_congr fun others => and_congr_left fun _ => ih (number + 1) (start + 1)

/-- Two sources with the same lines that do something send the same. -/
theorem read_congr {source other : String} (same : busyLines other = busyLines source)
    (steps : List Step) : read other = .ok steps ↔ read source = .ok steps := by
  have whole : ∀ text : String, read text = .ok steps ↔
      readFrom 1 .empty (busyLines text) = .ok steps := fun text => readFrom_busy 1 1
  rw [whole, whole, same]

/-! ## Edits -/

/-- A text that ends a line. -/
def IsLineEnd (ending : String) : Prop :=
  ending = "\n" ∨ ending = "\r\n"

/-- A line may start behind a text. -/
def StartsLine (before : String) : Prop :=
  before = "" ∨ ∃ earlier, before = earlier ++ "\n"

/-- A line may end in front of a text. -/
def EndsLine (after : String) : Prop :=
  after = "" ∨ ∃ ending later, IsLineEnd ending ∧ after = ending ++ later

/-- Blanks within a line. -/
structure IsSpacing (blanks : String) : Prop where
  blank : Text.allBlank blanks
  whole : '\n' ∉ blanks.toList

/-- A blank line or a comment, indented or not. -/
inductive IsRemark : String → Prop where
  | blank {blanks : String} (spacing : IsSpacing blanks) : IsRemark blanks
  | comment {blanks text : String} (spacing : IsSpacing blanks) (whole : '\n' ∉ text.toList) :
      IsRemark (blanks ++ "#" ++ text)

/-- One change to the layout of a script. -/
inductive Edit : String → String → Prop where
  /-- A line ends in a carriage return and a line feed instead of a line feed alone. -/
  | widenEnd (before after : String) : Edit (before ++ "\n" ++ after) (before ++ "\r\n" ++ after)
  | addLastEnd (source : String) {ending : String} (ends : IsLineEnd ending) :
      Edit source (source ++ ending)
  | dropLastEnd (source : String) {ending : String} (ends : IsLineEnd ending) :
      Edit (source ++ ending) source
  | indent {before blanks : String} (starts : StartsLine before) (spacing : IsSpacing blanks)
      (after : String) : Edit (before ++ after) (before ++ blanks ++ after)
  | pad (before : String) {blanks after : String} (spacing : IsSpacing blanks)
      (ends : EndsLine after) : Edit (before ++ after) (before ++ blanks ++ after)
  | insert {before line ending : String} (starts : StartsLine before) (remark : IsRemark line)
      (ends : IsLineEnd ending) (after : String) :
      Edit (before ++ after) (before ++ line ++ ending ++ after)

theorem busyLines_lineFeed (before after : String) :
    busyLines (before ++ "\n" ++ after) = busyLines before ++ busyLines after := by
  simp [busyLines, trimmedLines, Text.fields_append_cons]

theorem busyLines_spaced {before after : String} (spacingBefore : IsSpacing before)
    (spacingAfter : IsSpacing after) (source : String) :
    busyLines (before ++ source ++ after) = busyLines source := by
  rw [busyLines, busyLines, trimmedLines, trimmedLines, String.toList_append,
    String.toList_append, Text.map_trim_fields_spaced (List.all_eq_true.1 spacingBefore.blank)
      (List.all_eq_true.1 spacingAfter.blank) spacingBefore.whole spacingAfter.whole]

theorem isSpacing_empty : IsSpacing "" :=
  ⟨by decide, by decide⟩

theorem isSpacing_carriageReturn : IsSpacing "\r" :=
  ⟨by decide, by decide⟩

theorem busyLines_indented {blanks : String} (spacing : IsSpacing blanks) (source : String) :
    busyLines (blanks ++ source) = busyLines source := by
  simpa using busyLines_spaced spacing isSpacing_empty source

theorem busyLines_padded {blanks : String} (spacing : IsSpacing blanks) (source : String) :
    busyLines (source ++ blanks) = busyLines source := by
  simpa using busyLines_spaced isSpacing_empty spacing source

theorem busyLines_empty : busyLines "" = [] := rfl

/-- The lines before and after a line end are independent of each other. -/
theorem busyLines_lineEnd (before after : String) {ending : String} (ends : IsLineEnd ending) :
    busyLines (before ++ ending ++ after) = busyLines before ++ busyLines after := by
  cases ends with
  | inl lineFeed => rw [lineFeed, busyLines_lineFeed]
  | inr both =>
    have apart : before ++ "\r\n" ++ after = before ++ "\r" ++ "\n" ++ after := by
      simp [String.append_assoc]
    rw [both, apart, busyLines_lineFeed, busyLines_padded isSpacing_carriageReturn]

/-- What starts a line is independent of the lines before it. -/
theorem StartsLine.busyLines_append {before : String} (starts : StartsLine before)
    (after : String) :
    busyLines (before ++ after) = busyLines before ++ busyLines after := by
  cases starts with
  | inl empty => rw [empty, String.empty_append, busyLines_empty, List.nil_append]
  | inr some =>
    obtain ⟨earlier, rfl⟩ := some
    have last : busyLines (earlier ++ "\n") = busyLines earlier := by
      simpa [busyLines_empty] using busyLines_lineFeed earlier ""
    rw [busyLines_lineFeed, last]

/-- What ends a line is independent of the lines after it. -/
theorem EndsLine.busyLines_append {after : String} (ends : EndsLine after) (before : String) :
    busyLines (before ++ after) = busyLines before ++ busyLines after := by
  cases ends with
  | inl empty => rw [empty, String.append_empty, busyLines_empty, List.append_nil]
  | inr some =>
    obtain ⟨ending, later, isEnd, rfl⟩ := some
    have first : busyLines (ending ++ later) = busyLines later := by
      simpa [busyLines_empty] using busyLines_lineEnd "" later isEnd
    rw [← String.append_assoc, busyLines_lineEnd before later isEnd, first]

/-- A comment is one without the blanks around it. -/
theorem head?_trim_comment (text : List Char) : (Text.trim ('#' :: text)).head? = some '#' := by
  have kept : Text.trimStart ('#' :: text) = '#' :: text :=
    List.dropWhile_cons_of_neg (by decide)
  obtain ⟨ends, whole, blank, -⟩ := Text.trimEndOf_append Text.isBlank ('#' :: text)
  rw [Text.trim, kept, Text.trimEnd]
  cases front : Text.trimEndOf Text.isBlank ('#' :: text) with
  | nil =>
    rw [front, List.nil_append] at whole
    have marked := blank '#' (by simp [← whole])
    exact absurd marked (by decide)
  | cons first others =>
    rw [front] at whole
    cases whole
    rfl

/-- Blank lines and comments do nothing. -/
theorem IsRemark.busyLines_eq {line : String} (remark : IsRemark line) : busyLines line = [] := by
  cases remark with
  | blank spacing => simpa [busyLines_empty] using busyLines_indented spacing ""
  | @comment blanks text spacing whole =>
    have single : Text.fields '\n' ('#' :: text.toList) = ['#' :: text.toList] :=
      Text.fields_eq_singleton (by simp [whole])
    have idle : isBusy (Text.trim ('#' :: text.toList)) = false := by
      simp [isBusy, Statement.isIdle, head?_trim_comment]
    rw [String.append_assoc, busyLines_indented spacing]
    simp [busyLines, trimmedLines, single, idle]

/-- An edit leaves alone the lines that do something. -/
theorem Edit.busyLines_eq {source other : String} (edit : Edit source other) :
    busyLines other = busyLines source := by
  cases edit with
  | widenEnd before after =>
    rw [busyLines_lineEnd before after (.inl rfl), busyLines_lineEnd before after (.inr rfl)]
  | addLastEnd _ ends =>
    simpa [busyLines_empty] using busyLines_lineEnd source "" ends
  | dropLastEnd _ ends =>
    simpa [busyLines_empty] using (busyLines_lineEnd other "" ends).symm
  | indent starts spacing after =>
    rw [String.append_assoc, starts.busyLines_append, busyLines_indented spacing,
      ← starts.busyLines_append]
  | pad before spacing ends =>
    rw [ends.busyLines_append, busyLines_padded spacing, ← ends.busyLines_append]
  | insert starts remark ends after =>
    rw [String.append_assoc, String.append_assoc, starts.busyLines_append, ← String.append_assoc,
      busyLines_lineEnd _ after ends, remark.busyLines_eq, List.nil_append,
      ← starts.busyLines_append]

/-- However often the layout of a script is changed, it sends the same commands: it is accepted
exactly if it was before, and then with the same steps. -/
theorem read_edited {source other : String} (edits : Relation.ReflTransGen Edit source other)
    (steps : List Step) : read other = .ok steps ↔ read source = .ok steps := by
  refine read_congr ?_ steps
  induction edits with
  | refl => rfl
  | tail _ edit ih => rw [edit.busyLines_eq, ih]

/-- A script with other line ends, a comment, blanks and an empty line, and without its last line
end. -/
theorem read_edited_commented :
    let source := "dmm = rm.open_resource(\"X\")\ndmm.write(\" *RST\")\n"
    let other := "\t# reset\r\ndmm = rm.open_resource(\"X\")  \r\n\n dmm.write(\" *RST\")"
    Relation.ReflTransGen Edit source other ∧ read source = .ok [⟨"X", .set, " *RST"⟩] ∧
      read other = .ok [⟨"X", .set, " *RST"⟩] := by
  have sent : read "dmm = rm.open_resource(\"X\")\ndmm.write(\" *RST\")\n" =
      .ok [⟨"X", .set, " *RST"⟩] := by rfl
  intro source other
  let opens := "dmm = rm.open_resource(\"X\")"
  let sends := "dmm.write(\" *RST\")"
  have space : IsSpacing " " := ⟨by decide, by decide⟩
  have spaces : IsSpacing "  " := ⟨by decide, by decide⟩
  have tab : IsSpacing "\t" := ⟨by decide, by decide⟩
  have comment : IsRemark "\t# reset" := .comment tab (by decide : '\n' ∉ " reset".toList)
  have wide : Edit source (opens ++ "\r\n" ++ sends ++ "\n") := .widenEnd opens (sends ++ "\n")
  have marked : Edit (opens ++ "\r\n" ++ sends ++ "\n")
      ("\t# reset\r\n" ++ opens ++ "\r\n" ++ sends ++ "\n") :=
    .insert (.inl rfl) comment (.inr rfl) (opens ++ "\r\n" ++ sends ++ "\n")
  have padded : Edit ("\t# reset\r\n" ++ opens ++ "\r\n" ++ sends ++ "\n")
      ("\t# reset\r\n" ++ opens ++ "  \r\n" ++ sends ++ "\n") :=
    .pad ("\t# reset\r\n" ++ opens) spaces (.inr ⟨"\r\n", sends ++ "\n", .inr rfl, rfl⟩)
  have spaced : Edit ("\t# reset\r\n" ++ opens ++ "  \r\n" ++ sends ++ "\n")
      ("\t# reset\r\n" ++ opens ++ "  \r\n\n" ++ sends ++ "\n") :=
    .insert (.inr ⟨"\t# reset\r\n" ++ opens ++ "  \r", rfl⟩) (.blank isSpacing_empty) (.inl rfl)
      (sends ++ "\n")
  have indented : Edit ("\t# reset\r\n" ++ opens ++ "  \r\n\n" ++ sends ++ "\n")
      (other ++ "\n") :=
    .indent (.inr ⟨"\t# reset\r\n" ++ opens ++ "  \r\n", rfl⟩) space (sends ++ "\n")
  have cut : Edit (other ++ "\n") other := .dropLastEnd other (.inl rfl)
  have edits : Relation.ReflTransGen Edit source other :=
    .tail (.tail (.tail (.tail (.tail (.single wide) marked) padded) spaced) indented) cut
  exact ⟨edits, sent, (read_edited edits _).2 sent⟩

end InstrumentBench.Script
