import InstrumentBench.Json.Token
import InstrumentBench.Proofs.Decimal.Digits
import Mathlib.Data.List.TakeWhile

/-!
# Natural numbers in JSON

The digits of a natural number are a number text, and below `2 ^ 64` they denote
that number (`Number.legible_nat`).
-/

namespace InstrumentBench

namespace Json

open Decimal

theorem Token.isNumberChar_of_isDigit {c : Char} (digit : isDigit c = true) :
    Token.isNumberChar c = true := by
  simp [isNumberChar, digit]

theorem Token.start?_of_isDigit {c : Char} (digit : isDigit c = true) :
    Token.start? c = some ([], .number [c]) := by
  have other : ∀ mark, isDigit mark = false → c ≠ mark := by
    intro mark noDigit same
    rw [same, noDigit] at digit
    cases digit
  simp (disch := decide) [start?, isGap, other, digit]

/-- Digits without leading zeros are a number without a fraction or a power. -/
theorem Lexeme.read?_digits (number : Nat) :
    Lexeme.read? (digits number) = some ⟨false, digits number, none, none⟩ := by
  have all : ∀ c ∈ digits number, isDigit c = true := fun c => isDigit_of_mem_digits
  have taken : (digits number).takeWhile isDigit = digits number :=
    List.takeWhile_eq_self_iff.mpr all
  have dropped : (digits number).dropWhile isDigit = [] := List.dropWhile_eq_nil_iff.mpr all
  have sign : ∀ rest, digits number ≠ '-' :: rest := by
    intro rest same
    have minus := all '-' (by rw [same]; exact List.mem_cons_self)
    exact absurd minus (by decide)
  have shortest : ¬ ((digits number).head? = some '0' ∧ digits number ≠ ['0']) := by
    intro found
    apply found.2
    rw [eq_zero_of_head?_digits found.1]
    decide
  unfold read?
  split
  next negative body signed =>
    split at signed
    next rest same => exact absurd same (sign rest)
    next =>
      cases signed
      rw [taken, dropped, if_neg (by simpa only [digits_ne_nil, false_or] using shortest)]
      rfl

namespace Number

/-- Digits of a number below `2 ^ 64` all fit into 64 bits. -/
theorem fit_of_lt {significand : Nat} {text : List Char}
    (small : valueFrom significand text < Nat.pow 2 64) :
    fit significand text = (valueFrom significand text, []) := by
  induction text generalizing significand with
  | nil => rfl
  | cons c rest ih =>
    have next : 10 * significand + digitValue c < Nat.pow 2 64 :=
      Nat.lt_of_le_of_lt (valueFrom_mono _ rest) small
    rw [fit, if_pos next]
    exact ih small

/-- A number whose text is cut out as a number and denotes it. -/
structure Legible (number : Number) : Prop where
  spelled : ∃ first rest, number.text = first :: rest ∧
    Token.start? first = some ([], .number [first]) ∧ ∀ c ∈ rest, Token.isNumberChar c = true
  denoted : ∃ lexeme, Lexeme.read? number.text = some lexeme ∧ ofLexeme? lexeme = some number

/-- What a number is cut out as. -/
def lexeme (number : Number) : Lexeme :=
  (Lexeme.read? number.text).getD ⟨false, [], none, none⟩

theorem Legible.read? {number : Number} (legible : number.Legible) :
    Lexeme.read? number.text = some number.lexeme := by
  obtain ⟨lexeme, read, _⟩ := legible.denoted
  rw [Number.lexeme, read]
  rfl

theorem Legible.ofLexeme? {number : Number} (legible : number.Legible) :
    ofLexeme? number.lexeme = some number := by
  obtain ⟨lexeme, read, denotes⟩ := legible.denoted
  rw [Number.lexeme, read]
  exact denotes

/-- A natural number of 64 bits is read as itself. -/
theorem legible_nat {number : Nat} (small : number < Nat.pow 2 64) :
    (integer number).Legible := by
  have text : (integer number).text = digits number := by simp [Number.text]
  constructor
  · cases same : digits number with
    | nil => exact absurd same (digits_ne_nil number)
    | cons first rest =>
      have all : ∀ c ∈ first :: rest, isDigit c = true := by
        rw [← same]
        exact fun c => isDigit_of_mem_digits
      use first, rest
      constructor
      · rw [text, same]
      constructor
      · exact Token.start?_of_isDigit (all first List.mem_cons_self)
      · intro c member
        exact Token.isNumberChar_of_isDigit (all c (List.mem_cons_of_mem _ member))
  · use ⟨false, digits number, none, none⟩
    constructor
    · rw [text]
      exact Lexeme.read?_digits number
    · have fits : fit 0 (digits number) = (number, []) := by
        have denoted := value_digits number
        rw [value] at denoted
        rw [fit_of_lt (by rw [denoted]; exact small), denoted]
      simp [ofLexeme?, fits, value_digits]

end Number

end Json

end InstrumentBench
