import InstrumentBench.Script.Literal

/-!
# Characters of literals

How each character of a text stands in its literal (`encodeChar_cases`), and that no
control character is left in a literal (`printable_encode`): a literal never breaks its
line.
-/

namespace InstrumentBench.Literal

/-- A text without control characters, which stands on one line therefore. -/
def Printable (text : List Char) : Prop :=
  ∀ c ∈ text, isControl c = false

instance (text : List Char) : Decidable (Printable text) :=
  List.decidableBAll (fun c => isControl c = false) text

@[simp] theorem printable_append {left right : List Char} :
    Printable (left ++ right) ↔ Printable left ∧ Printable right :=
  List.forall_mem_append

theorem Printable.lineFeed_not_mem {text : List Char} (printable : Printable text) :
    '\n' ∉ text := fun member =>
  absurd (printable '\n' member) (by decide)

/-- A character with a code below 256 is read back from its two hexadecimal
digits. -/
theorem hexChar?_hexDigit {c : Char} (small : c.toNat < 256) :
    hexChar? (Text.hexDigit (c.toNat / 16)) (Text.hexDigit (c.toNat % 16)) = some c := by
  have high : c.toNat / 16 < 16 := by omega
  have low : c.toNat % 16 < 16 := by omega
  have sum : c.toNat / 16 * 16 + c.toNat % 16 = c.toNat := by omega
  simp [hexChar?, Text.hexValue?_hexDigit high, Text.hexValue?_hexDigit low, sum]

theorem toNat_lt_of_isControl {c : Char} (control : isControl c) : c.toNat < 256 := by
  simp only [isControl, Bool.or_eq_true, Bool.and_eq_true, decide_eq_true_eq] at control
  omega

/-- A character is encoded as an escape of one letter, as an escape of two
hexadecimal digits, or as itself. -/
theorem encodeChar_cases (c : Char) :
    (∃ letter, escape? letter = some c ∧ isControl letter = false ∧
      encodeChar c = ['\\', letter]) ∨
    (isControl c ∧ encodeChar c =
      ['\\', 'x', Text.hexDigit (c.toNat / 16), Text.hexDigit (c.toNat % 16)]) ∨
    (c ≠ '\\' ∧ c ≠ '"' ∧ isControl c = false ∧ encodeChar c = [c]) := by
  by_cases backslash : c = '\\'
  · exact .inl ⟨'\\', by simp [backslash, escape?], by decide, by simp [backslash, encodeChar]⟩
  by_cases quote : c = '"'
  · exact .inl ⟨'"', by simp [quote, escape?], by decide, by simp [quote, encodeChar]⟩
  by_cases lineFeed : c = '\n'
  · exact .inl ⟨'n', by simp [lineFeed, escape?], by decide, by simp [lineFeed, encodeChar]⟩
  by_cases carriageReturn : c = '\r'
  · exact .inl ⟨'r', by simp [carriageReturn, escape?], by decide,
      by simp [carriageReturn, encodeChar]⟩
  by_cases tab : c = '\t'
  · exact .inl ⟨'t', by simp [tab, escape?], by decide, by simp [tab, encodeChar]⟩
  right
  by_cases control : isControl c
  · exact .inl ⟨control, by
      simp [encodeChar, backslash, quote, lineFeed, carriageReturn, tab, control]⟩
  · exact .inr ⟨backslash, quote, by simpa using control, by
      simp [encodeChar, backslash, quote, lineFeed, carriageReturn, tab, control]⟩

/-- Reading an escape of one letter gives the character it stands for. -/
theorem decodeBody_escape {letter c : Char} (known : escape? letter = some c)
    (rest : List Char) :
    decodeBody ('\\' :: letter :: rest) =
      (do
        let (text, after) ← decodeBody rest
        return (c :: text, after)) := by
  have notHex : letter ≠ 'x' := by
    rintro rfl
    simp [escape?] at known
  rw [decodeBody]
  · rw [known]
  · intro _ _ _ same
    exact absurd same notHex
  · exact notHex

theorem isControl_hexDigit {digit : Nat} (small : digit < 16) :
    isControl (Text.hexDigit digit) = false := by
  revert digit
  decide

theorem printable_encodeChar (c : Char) : Printable (encodeChar c) := by
  rcases encodeChar_cases c with ⟨letter, -, plainLetter, escaped⟩ | ⟨control, escaped⟩ |
    ⟨-, -, plain, same⟩
  · rw [escaped]
    simp [Printable, plainLetter]
    decide
  · have small := toNat_lt_of_isControl control
    have high : isControl (Text.hexDigit (c.toNat / 16)) = false := isControl_hexDigit (by omega)
    have low : isControl (Text.hexDigit (c.toNat % 16)) = false := isControl_hexDigit (by omega)
    rw [escaped]
    simp [Printable, high, low]
    decide
  · rw [same]
    simpa [Printable] using plain

/-- A literal has no control character, line breaks included. -/
theorem printable_encode (text : List Char) : Printable (encode text) := by
  have body : Printable (text.flatMap encodeChar) := fun c member => by
    obtain ⟨source, -, encoded⟩ := List.mem_flatMap.1 member
    exact printable_encodeChar source c encoded
  have quote : Printable ['"'] := by decide
  rw [encode, ← List.singleton_append, printable_append, printable_append]
  exact ⟨⟨quote, body⟩, quote⟩

end InstrumentBench.Literal
