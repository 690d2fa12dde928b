import InstrumentBench.Proofs.Script.StatementGrammar
import InstrumentBench.Script.Replay
import Mathlib.Logic.Function.Basic

/-!
# Lines of replay scripts

Every line that a script is made of is well-formed, whatever the literal in it says: the
handles are names.  It is therefore read as the statement it was made for.
-/

namespace InstrumentBench.Script

theorem handle_toList (index : Nat) :
    (handle index).toList = ['i', 'n', 's', 't', '_'] ++ Nat.toDigits 10 (index + 1) := by
  simp [handle]

theorem handle_injective : Function.Injective handle := by
  intro first second same
  have digits : Nat.toDigits 10 (first + 1) = Nat.toDigits 10 (second + 1) := by
    simpa [handle_toList] using congrArg String.toList same
  have numbers := congrArg (Nat.ofDigitChars 10 · 0) digits
  simpa using numbers

theorem isNameChar_of_mem_handle {index : Nat} {c : Char} (member : c ∈ (handle index).toList) :
    Statement.isNameChar c := by
  rw [handle_toList, List.mem_append] at member
  rcases member with letter | digit
  · have letters : ['i', 'n', 's', 't', '_'].all Statement.isNameChar := by decide
    exact List.all_eq_true.1 letters c letter
  · have isDigit := Nat.isDigit_of_mem_toDigits (by decide) (by decide) digit
    simp [Statement.isNameChar, Char.isAlphanum, isDigit]

theorem printable_handle (index : Nat) : Literal.Printable (handle index).toList :=
  fun _ member => Statement.isControl_of_isNameChar (isNameChar_of_mem_handle member)

theorem isIdentifier_handle (index : Nat) : Statement.isIdentifier (handle index).toList := by
  have named := @isNameChar_of_mem_handle index
  rw [handle_toList] at named ⊢
  simp only [Statement.isIdentifier, List.cons_append, List.nil_append, Bool.and_eq_true,
    List.all_eq_true]
  exact ⟨by decide, fun c member => named (List.mem_cons_of_mem _ member)⟩

theorem trim_handle (index : Nat) :
    Text.trim (handle index).toList = (handle index).toList :=
  Statement.trim_name (isIdentifier_handle index)

/-- The line that opens a resource is read as that. -/
theorem read_openLine (index : Nat) (resource : String) :
    Statement.read (openLine index resource).toList = .ok (.opens (handle index) resource) := by
  have opened := Statement.read_opens (isIdentifier_handle index)
    (Literal.spells_encode resource.toList)
  have line : (openLine index resource).toList = (handle index).toList ++
      " = rm.open_resource(".toList ++ Literal.encode resource.toList ++ ")".toList := by
    simp [openLine, Literal.quote, Statement.assignment, Statement.openCall]
  rw [line]
  simpa using opened

/-- The line that sends an entry again is read as that. -/
theorem read_sendLine (resources : List String) (entry : Entry) :
    Statement.read (sendLine resources entry).toList =
      .ok (.sends (handle (resources.idxOf entry.resource)) entry.direction entry.text) := by
  let index := resources.idxOf entry.resource
  have named : Statement.isIdentifier (Text.trim (handle index).toList) := by
    rw [trim_handle]
    exact isIdentifier_handle index
  have quoted := Literal.spells_encode entry.text.toList
  cases way : entry.direction with
  | get =>
    have line : (sendLine resources entry).toList = "print(".toList ++ (handle index).toList ++
        ".query(".toList ++ Literal.encode entry.text.toList ++ "))".toList := by
      simp [sendLine, way, Literal.quote, Statement.printCall, Statement.queryCall, index]
    rw [line]
    simpa [trim_handle] using Statement.read_queries named quoted
  | set =>
    have line : (sendLine resources entry).toList = (handle index).toList ++
        ".write(".toList ++ Literal.encode entry.text.toList ++ ")".toList := by
      simp [sendLine, way, Literal.quote, Statement.writeCall, index]
    rw [line]
    simpa [trim_handle] using Statement.read_writes named quoted

end InstrumentBench.Script
