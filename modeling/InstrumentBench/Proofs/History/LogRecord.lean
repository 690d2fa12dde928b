import InstrumentBench.History.CommandLog
import InstrumentBench.Instrument.Link
import InstrumentBench.Proofs.Json.Decoder
import InstrumentBench.Proofs.Json.Printer

/-!
# What a line of the log says

Whatever characters a command and its reply have, their record is one line of JSON without
line breaks inside, and the line is read as an object that says to whom what was sent and
what became of it (`LogRecord.reports`).
-/

namespace InstrumentBench

open Json

/-- The command that a record is about. -/
def LogRecord.sent (record : LogRecord) : Sent :=
  ⟨record.resource, record.direction, record.command⟩

namespace CommandLog

/-- The members of an object say that a command was sent and what became of it: a reply
goes with success and a reason with failure. -/
structure Says (members : List (String × Value)) (call : Sent)
    (outcome : Except String (Option String)) : Prop where
  resource : members.lookup "resource" = some (.string call.resource)
  direction : members.lookup "direction" = some (.string call.direction.label)
  command : members.lookup "command" = some (.string call.text)
  outcome :
    match outcome with
    | .ok response => members.lookup "ok" = some (.bool true) ∧
        members.lookup "response" = response.map .string ∧ members.lookup "error" = none
    | .error reason => members.lookup "ok" = some (.bool false) ∧
        members.lookup "response" = none ∧ members.lookup "error" = some (.string reason)

/-- A text has no line breaks and is read as an object that says what was sent and what
became of it. -/
structure Reports (line : String) (call : Sent) (outcome : Except String (Option String)) :
    Prop where
  unbroken : ∀ c ∈ line.toList, c ≠ '\n' ∧ c ≠ '\r'
  object : ∃ members, Value.read? line = some (.object members) ∧ Says members call outcome

end CommandLog

namespace LogRecord

/-- The document of a record is an object whose members can be read back, and they say what
was sent and what became of it. -/
theorem exists_members {record : LogRecord} (dated : record.millis < Nat.pow 2 64) (room : Nat) :
    ∃ members, record.encode = .object members ∧
      (∀ member ∈ members, member.2.Readable room) ∧
      CommandLog.Says (Value.sortMembers (Value.sortedMembers members)) record.sent
        record.outcome := by
  have stamp : (Value.nat record.millis).Readable room := Number.legible_nat dated
  rcases record with ⟨millis, resource, direction, command, outcome⟩
  have said : ∀ rest : List (String × Value),
      (∀ member ∈ rest, member.2.Readable room) →
      ∀ member ∈ [("ts_ms", Value.nat millis), ("resource", .string resource),
        ("direction", direction.encode), ("command", .string command)] ++ rest,
        member.2.Readable room := by
    intro rest readable
    simp only [List.forall_mem_append, List.forall_mem_cons]
    exact ⟨⟨stamp, trivial, trivial, trivial, List.forall_mem_nil _⟩, readable⟩
  rcases outcome with reason | _ | response <;>
  · refine ⟨_, rfl, said _ (by simp [Value.Readable]), ?_⟩
    constructor <;> simp [Value.lookup_sortMembers, Value.sortedMembers, Value.sorted,
      List.lookup_cons, sent, Direction.encode]

/-- The line of a record reports the command that it is about. -/
theorem reports {record : LogRecord} (dated : record.millis < Nat.pow 2 64) :
    CommandLog.Reports record.encode.compact record.sent record.outcome := by
  constructor
  case unbroken =>
    intro c member
    have printable := Value.printable_compactChars record.encode
    rw [Value.compact, String.toList_ofList] at member
    exact ⟨fun same => printable.not_mem (by decide) (same ▸ member),
      fun same => printable.not_mem (by decide) (same ▸ member)⟩
  case object =>
    obtain ⟨members, encoded, readable, told⟩ := exists_members dated 126
    refine ⟨_, ?_, told⟩
    rw [encoded, Value.read?_compact (Value.readable_object.2 readable), Value.sorted]

end LogRecord

end InstrumentBench
