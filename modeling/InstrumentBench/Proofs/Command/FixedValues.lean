import InstrumentBench.Proofs.Command.Rendering
import InstrumentBench.Proofs.Decimal.Plain

/-!
# Values with a fixed count of places

What is written for a number is a number text itself, and given again it is written as it is
(`fixed?_idempotent`).  A plain decimal of at most fifteen digits is written with the digits that
were typed (`format_plain`).
-/

namespace InstrumentBench

namespace Parameter

variable {places : ℕ} {name text written : String}

/-- A text that spells a number has no blanks to be taken away. -/
theorem present?_of_fixed? (spelled : Decimal.fixed? places text = some written) :
    present? (some text) = some text := by
  obtain ⟨x, ⟨_, _, spells, -⟩, -⟩ := Decimal.fixed?_eq_some.1 spelled
  have trimmed : Text.trimmed text = text := by
    rw [Text.trimmed, Text.trim_of_visible spells.visible, String.ofList_toList]
  have nonempty : text ≠ "" := by
    rintro rfl
    cases spelled
  rw [present?, trimmed, if_neg nonempty]

/-- A number parameter writes the present value with its places. -/
theorem format_fixed {raw : Option String} :
    format ⟨name, .fixed places⟩ raw = .ok written ↔
      ∃ text, present? raw = some text ∧ Decimal.fixed? places text = some written := by
  unfold format
  dsimp only
  cases present? raw with
  | none => simp
  | some text => cases read : Decimal.fixed? places text <;> simp [read]

theorem format_of_fixed? (spelled : Decimal.fixed? places text = some written) :
    format ⟨name, .fixed places⟩ (some text) = .ok written :=
  format_fixed.2 ⟨text, present?_of_fixed? spelled, spelled⟩

end Parameter

open Decimal (fixed?)

/-- Writing a written number again does not change it, nor does giving it again for a parameter. -/
theorem fixed?_idempotent (places : ℕ) :
    (∀ text written, fixed? places text = some written → fixed? places written = some written) ∧
      ∀ name raw written, Parameter.format ⟨name, .fixed places⟩ raw = .ok written →
        Parameter.format ⟨name, .fixed places⟩ (some written) = .ok written := by
  refine ⟨fun text written => Decimal.fixed?_of_fixed?, fun name raw written first => ?_⟩
  obtain ⟨text, -, spelled⟩ := Parameter.format_fixed.1 first
  exact Parameter.format_of_fixed? (Decimal.fixed?_of_fixed? spelled)

/-- Reading the large number rounds twice; the small one leaves nothing but its sign. -/
theorem fixed?_idempotent_rounded :
    fixed? 2 "-1e23" = some "-99999999999999991611392.00" ∧
      fixed? 2 "-99999999999999991611392.00" = some "-99999999999999991611392.00" ∧
      Parameter.format ⟨"LEVEL", .fixed 2⟩ (some " -0.004 ") = .ok "-0.00" ∧
      Parameter.format ⟨"LEVEL", .fixed 2⟩ (some "-0.00") = .ok "-0.00" := by
  have large : fixed? 2 "-1e23" = some "-99999999999999991611392.00" := by decide +kernel
  have small : Parameter.format ⟨"LEVEL", .fixed 2⟩ (some " -0.004 ") = .ok "-0.00" := by
    decide +kernel
  exact ⟨large, (fixed?_idempotent 2).1 _ _ large, small, (fixed?_idempotent 2).2 _ _ _ small⟩

/-- A plain decimal of at most fifteen digits is written with the digits that were typed: its sign
if that is a minus, no superfluous zeros in front, and zeros behind up to the last place. -/
theorem Parameter.format_plain {places : ℕ} {text : String} {negative : Bool}
    {whole fraction : List Char}
    (plain : Decimal.Numeral.SpellsPlain text.toList negative whole fraction) (few : places ≤ 15)
    (fits : fraction.length ≤ places)
    (short : (whole.dropWhile (· == '0')).length ≤ 15 - places) (name : String) :
    format ⟨name, .fixed places⟩ (some text) =
      .ok (String.ofList (Decimal.aligned places negative whole fraction)) :=
  format_of_fixed? (Decimal.fixed?_of_spellsPlain plain few fits short)

theorem Parameter.format_plain_nines :
    Decimal.Numeral.SpellsPlain "-00999999999999.99".toList true "00999999999999".toList
        "99".toList ∧
      "99".toList.length ≤ 3 ∧
      ("00999999999999".toList.dropWhile (· == '0')).length ≤ 15 - 3 ∧
      format ⟨"LEVEL", .fixed 3⟩ (some "-00999999999999.99") = .ok "-999999999999.990" := by
  have digit : ∀ c ∈ "00999999999999".toList ++ "99".toList, Decimal.isDigit c = true :=
    List.all_eq_true.1 (by decide)
  have plain : Decimal.Numeral.SpellsPlain "-00999999999999.99".toList true
      "00999999999999".toList "99".toList := .mk .minus (.pointed digit (by decide))
  have fits : "99".toList.length ≤ 3 := by decide
  have short : ("00999999999999".toList.dropWhile (· == '0')).length ≤ 15 - 3 := by decide
  exact ⟨plain, fits, short, format_plain plain (by decide) fits short "LEVEL"⟩

end InstrumentBench
