import InstrumentBench.History.Recorder
import InstrumentBench.Proofs.History.Timestamp
import InstrumentBench.Proofs.Text.Fields

/-!
# Line breaks in audit lines

An audit line leaves out the line breaks of the command and of the reply, and writes the
resource as it is.  So its line breaks are those of the resource, one for one
(`Entry.lineBreaks_auditLine`), and a log printed with one line for each entry has one text line
for each entry exactly if no resource has a line feed (`Recorder.auditLog_lines`).  A resource
that has one can make an entry read as two, which is what `Recorder.auditLog_forged` shows.
-/

namespace InstrumentBench

/-! ## Line breaks -/

/-- The carriage returns and line feeds of a text, in order. -/
def Text.lineBreaks (text : String) : List Char :=
  text.toList.filter fun c => c = '\r' ∨ c = '\n'

namespace Text

theorem mem_lineBreaks {c : Char} {text : String} :
    c ∈ lineBreaks text ↔ c ∈ text.toList ∧ (c = '\r' ∨ c = '\n') := by
  rw [lineBreaks, List.mem_filter, decide_eq_true_eq]

@[simp] theorem lineBreaks_append (first second : String) :
    lineBreaks (first ++ second) = lineBreaks first ++ lineBreaks second := by
  rw [lineBreaks, String.toList_append, List.filter_append]
  rfl

theorem lineBreaks_eq_nil {text : String} :
    lineBreaks text = [] ↔ '\r' ∉ text.toList ∧ '\n' ∉ text.toList := by
  simp only [List.eq_nil_iff_forall_not_mem, mem_lineBreaks, not_and, not_or]
  constructor
  · intro unbroken
    exact ⟨fun member => (unbroken _ member).1 rfl, fun member => (unbroken _ member).2 rfl⟩
  · rintro ⟨noReturn, noFeed⟩ c member
    exact ⟨fun same => noReturn (same ▸ member), fun same => noFeed (same ▸ member)⟩

end Text

/-! ## Lines of entries -/

namespace Entry

theorem lineBreaks_timestamp (millis : Nat) : Text.lineBreaks (Timestamp.text millis) = [] := by
  rw [Text.lineBreaks_eq_nil, Timestamp.text, String.toList_ofList]
  exact ⟨Timestamp.not_mem_chars (by decide) (by decide) millis,
    Timestamp.not_mem_chars (by decide) (by decide) millis⟩

theorem lineBreaks_singleLine (text : String) : Text.lineBreaks (singleLine text) = [] := by
  rw [Text.lineBreaks_eq_nil, singleLine, String.toList_ofList]
  simp

/-- The line breaks of an audit line are those of the resource. -/
theorem lineBreaks_auditLine (entry : Entry) :
    Text.lineBreaks entry.auditLine = Text.lineBreaks entry.resource := by
  have opening : Text.lineBreaks "[" = [] := by decide
  have closing : Text.lineBreaks "] " = [] := by decide
  have gap : Text.lineBreaks " " = [] := by decide
  have colon : Text.lineBreaks ": " = [] := by decide
  have arrow : Text.lineBreaks " --> " = [] := by decide
  have direction : Text.lineBreaks entry.direction.label = [] := by
    cases entry.direction <;> decide
  cases answered : entry.response with
  | none =>
    simp [auditLine, answered, opening, closing, gap, colon, direction, lineBreaks_singleLine,
      lineBreaks_timestamp]
  | some response =>
    simp [auditLine, answered, opening, closing, gap, colon, direction, lineBreaks_singleLine,
      lineBreaks_timestamp, arrow]

theorem lineFeed_mem_auditLine {entry : Entry} :
    '\n' ∈ entry.auditLine.toList ↔ '\n' ∈ entry.resource.toList := by
  have same := congrArg ('\n' ∈ ·) entry.lineBreaks_auditLine
  simpa [Text.mem_lineBreaks] using same

theorem count_lineFeed_auditLine (entry : Entry) :
    entry.auditLine.toList.count '\n' = entry.resource.toList.count '\n' := by
  have feeds : ∀ text : String, (Text.lineBreaks text).count '\n' = text.toList.count '\n' :=
    fun text => List.count_filter (by decide)
  rw [← feeds, lineBreaks_auditLine, feeds]

end Entry

/-! ## Printed logs -/

namespace Recorder

/-- The audit log printed, each line ended by a line feed. -/
def printedLog (recorder : Recorder) : List Char :=
  recorder.auditLog.flatMap fun line => line.toList ++ ['\n']

theorem printedLog_eq (recorder : Recorder) :
    recorder.printedLog = (recorder.auditLog.map String.toList).flatMap (· ++ ['\n']) := by
  rw [printedLog, List.flatMap_map]

theorem count_lineFeed_printedLog (recorder : Recorder) :
    recorder.printedLog.count '\n' =
      recorder.size + (recorder.entries.flatMap fun entry => entry.resource.toList).count '\n' := by
  rcases recorder with ⟨entries⟩
  induction entries with
  | nil => rfl
  | cons entry rest ih =>
    change (entry.auditLine.toList ++ ['\n'] ++ printedLog ⟨rest⟩).count '\n' = _
    rw [List.count_append, List.count_append, ih, Entry.count_lineFeed_auditLine,
      List.count_singleton_self, List.flatMap_cons, List.count_append, size, size,
      List.length_cons]
    dsimp only
    omega

/-- Without line feeds in resources the lines of the printed log are the audit lines, and only
then. -/
theorem fields_printedLog {recorder : Recorder} :
    Text.fields '\n' recorder.printedLog = recorder.auditLog.map String.toList ++ [[]] ↔
      ∀ entry ∈ recorder.entries, '\n' ∉ entry.resource.toList := by
  constructor
  · intro lines entry member
    rw [← Entry.lineFeed_mem_auditLine]
    apply Text.not_mem_of_mem_fields
    rw [lines]
    refine List.mem_append_left _ (List.mem_map_of_mem ?_)
    exact List.mem_map_of_mem member
  · intro unbroken
    rw [printedLog_eq]
    refine Text.fields_flatMap fun line member => ?_
    simp only [auditLog, List.map_map, List.mem_map] at member
    obtain ⟨entry, recorded, rfl⟩ := member
    rw [Function.comp_apply, Entry.lineFeed_mem_auditLine]
    exact unbroken entry recorded

/-- The carriage returns and line feeds of an audit line are exactly those of its resource.  So a
printed log has one line for each entry and one more for each line feed in a resource, and its
text lines are the audit lines of the entries, none of them forged, exactly if no resource has a
line feed. -/
theorem auditLog_lines (recorder : Recorder) :
    (∀ entry : Entry, Text.lineBreaks entry.auditLine = Text.lineBreaks entry.resource) ∧
    recorder.printedLog.count '\n' = recorder.size +
      (recorder.entries.flatMap fun entry => entry.resource.toList).count '\n' ∧
    (Text.fields '\n' recorder.printedLog = recorder.auditLog.map String.toList ++ [[]] ↔
      ∀ entry ∈ recorder.entries, '\n' ∉ entry.resource.toList) :=
  ⟨Entry.lineBreaks_auditLine, recorder.count_lineFeed_printedLog, fields_printedLog⟩

/-- One command sent to a resource with a line feed prints as two commands sent to other
resources. -/
theorem auditLog_forged :
    let forged : Entry :=
      ⟨0, .set, "psu SET: OUTP OFF\n[1970-01-01 00:00:00] dmm", "*RST", none⟩
    '\n' ∈ forged.auditLine.toList ∧
      printedLog ⟨[forged]⟩ =
        printedLog ⟨[⟨0, .set, "psu", "OUTP OFF", none⟩, ⟨0, .set, "dmm", "*RST", none⟩]⟩ := by
  decide +kernel

end Recorder

end InstrumentBench
