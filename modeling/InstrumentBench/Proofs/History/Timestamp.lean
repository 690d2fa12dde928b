import InstrumentBench.History.Timestamp
import InstrumentBench.Proofs.Decimal.Digits

/-!
# How timestamps are written

A date and a time of day are written in digits and the marks between them, whatever the year
(`not_mem_chars`).  So neither can break a line or a path in which it stands.
-/

namespace InstrumentBench.Timestamp

theorem not_mem_date {c : Char} (noDigit : Decimal.isDigit c = false) (noMark : c ≠ '-')
    (date : Date) : c ∉ date.chars := by
  simp [Date.chars, Decimal.not_mem_paddedDigits noDigit, noMark]

theorem not_mem_clock {c : Char} (noDigit : Decimal.isDigit c = false) (noMark : c ≠ ':')
    (secondOfDay : Nat) : c ∉ clockChars secondOfDay := by
  simp [clockChars, Decimal.not_mem_paddedDigits noDigit, noMark]

/-- A timestamp has no characters but digits, hyphens, colons and a blank. -/
theorem not_mem_chars {c : Char} (noDigit : Decimal.isDigit c = false)
    (noMark : c ∉ ['-', ':', ' ']) (millis : Nat) : c ∉ chars millis := by
  simp only [List.mem_cons, List.not_mem_nil, or_false, not_or] at noMark
  obtain ⟨noHyphen, noColon, noBlank⟩ := noMark
  intro member
  rcases List.mem_append.1 member with dated | timed
  · exact not_mem_date noDigit noHyphen _ dated
  · rcases List.mem_cons.1 timed with blank | timed
    · exact noBlank blank
    · exact not_mem_clock noDigit noColon _ timed

end InstrumentBench.Timestamp
