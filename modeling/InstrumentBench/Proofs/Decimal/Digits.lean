import InstrumentBench.Decimal.Digits
import InstrumentBench.Text.Blank
import Mathlib.Algebra.Order.Ring.Nat
import Mathlib.Data.List.Induction
import Mathlib.Tactic.Common
import Mathlib.Tactic.Ring

/-!
# Digits of natural numbers

The digits of a natural number denote it (`value_digits`), and none of them leads it but the
zero of the number zero.  The other way round, a text of digits is what is written for the number
it denotes: with its own width if leading zeros count (`lowDigits_value`), and without a width if
it has none (`digits_value`).
-/

namespace InstrumentBench.Decimal

theorem isDigit_of_mem_digits {number : Nat} {c : Char} (member : c ∈ digits number) :
    isDigit c = true :=
  Nat.isDigit_of_mem_toDigits (by decide) (by decide) member

theorem isDigit_digitChar (number : Nat) : isDigit (digitChar number) = true := by
  have small : ∀ digit < 10, isDigit (Char.ofNat (48 + digit)) = true := by decide
  exact small (number % 10) (Nat.mod_lt number (by decide))

theorem isDigit_of_mem_lowDigits {width number : Nat} :
    ∀ c ∈ lowDigits width number, isDigit c = true := by
  induction width generalizing number with
  | zero => exact List.forall_mem_nil _
  | succ width ih =>
    exact List.forall_mem_append.2 ⟨ih, List.forall_mem_singleton.2 (isDigit_digitChar number)⟩

/-- Padding adds digits only. -/
theorem isDigit_of_mem_paddedDigits {width number : Nat} {c : Char}
    (member : c ∈ paddedDigits width number) : isDigit c = true := by
  rw [paddedDigits] at member
  split at member
  next => exact isDigit_of_mem_lowDigits c member
  next => exact isDigit_of_mem_digits member

theorem not_mem_paddedDigits {c : Char} (other : isDigit c = false) (width number : Nat) :
    c ∉ paddedDigits width number :=
  fun member => absurd (isDigit_of_mem_paddedDigits member) (by simp [other])

theorem isBlank_of_isDigit {c : Char} (digit : isDigit c = true) : Text.isBlank c = false := by
  simp only [isDigit, Bool.and_eq_true, decide_eq_true_eq, Char.le_def, UInt32.le_iff_toNat_le,
    Char.toNat_val] at digit
  have least : '0'.toNat = 48 := rfl
  have greatest : '9'.toNat = 57 := rfl
  simp only [Text.isBlank, Bool.or_eq_false_iff, Bool.and_eq_false_iff, decide_eq_false_iff_not,
    beq_eq_false_iff_ne]
  omega

theorem digits_ne_nil (number : Nat) : digits number ≠ [] :=
  Nat.toDigits_ne_nil

/-- The digits of a number denote it. -/
theorem value_digits (number : Nat) : value (digits number) = number :=
  Nat.ofDigitChars_ten_toDigits

/-- Only zero starts with the digit 0. -/
theorem eq_zero_of_head?_digits {number : Nat} (zero : (digits number).head? = some '0') :
    number = 0 := by
  induction number using Nat.strongRecOn with
  | ind number ih =>
    rw [digits, Nat.toDigits_eq_if (by decide)] at zero
    split at zero
    next small =>
      have digitChar : ∀ digit < 10, [digit.digitChar].head? = some '0' → digit = 0 := by decide
      exact digitChar number small zero
    next large =>
      have none : number / 10 = 0 := by
        apply ih (number / 10) (by omega)
        rw [← zero, List.head?_append, digits]
        cases same : (Nat.toDigits 10 (number / 10)).head? with
        | none => exact absurd (List.head?_eq_none_iff.mp same) Nat.toDigits_ne_nil
        | some first => rfl
      omega

theorem valueFrom_mono (start : Nat) (text : List Char) : start ≤ valueFrom start text := by
  induction text generalizing start with
  | nil => exact Nat.le_refl start
  | cons c rest ih =>
    have grown := ih (10 * start + digitValue c)
    change start ≤ valueFrom (10 * start + digitValue c) rest
    omega

/-! ## Texts of digits -/

/-- A digit is the character of its value, which is below ten. -/
theorem exists_digitChar {c : Char} (digit : isDigit c = true) :
    ∃ number < 10, c = digitChar number := by
  simp only [isDigit, Bool.and_eq_true, decide_eq_true_eq, Char.le_def, UInt32.le_iff_toNat_le,
    Char.toNat_val] at digit
  have least : '0'.toNat = 48 := rfl
  have greatest : '9'.toNat = 57 := rfl
  refine ⟨c.toNat - 48, by omega, ?_⟩
  rw [digitChar, Nat.mod_eq_of_lt (by omega), Nat.add_sub_cancel' (by omega), Char.ofNat_toNat]

theorem digitValue_digitChar {number : Nat} (small : number < 10) :
    digitValue (digitChar number) = number := by
  have all : ∀ number < 10, digitValue (digitChar number) = number := by decide
  exact all number small

theorem digitValue_lt {c : Char} (digit : isDigit c = true) : digitValue c < 10 := by
  obtain ⟨number, small, rfl⟩ := exists_digitChar digit
  rwa [digitValue_digitChar small]

theorem value_concat (text : List Char) (c : Char) :
    value (text ++ [c]) = 10 * value text + digitValue c := by
  rw [value, valueFrom_append]
  rfl

theorem value_append (first second : List Char) :
    value (first ++ second) = value first * 10 ^ second.length + value second := by
  induction second using List.reverseRecOn with
  | nil => simp [value, valueFrom]
  | append_singleton second c ih =>
    rw [← List.append_assoc, value_concat, ih, value_concat, List.length_append,
      List.length_singleton]
    ring

theorem value_lt {text : List Char} (digit : ∀ c ∈ text, isDigit c = true) :
    value text < 10 ^ text.length := by
  induction text using List.reverseRecOn with
  | nil => exact Nat.one_pos
  | append_singleton text c ih =>
    rw [List.forall_mem_append, List.forall_mem_singleton] at digit
    have before := ih digit.1
    have last := digitValue_lt digit.2
    rw [value_concat, List.length_append, List.length_singleton, pow_succ]
    omega

/-- The lowest digits of a number denote what they leave of it. -/
theorem value_lowDigits (width number : Nat) :
    value (lowDigits width number) = number % 10 ^ width := by
  induction width generalizing number with
  | zero => rw [pow_zero, Nat.mod_one]; rfl
  | succ width ih =>
    have last : digitValue (digitChar number) = number % 10 := by
      have same : digitChar number = digitChar (number % 10) := by
        rw [digitChar, digitChar, Nat.mod_mod]
      rw [same, digitValue_digitChar (Nat.mod_lt number (by decide))]
    rw [lowDigits, value_concat, ih, last, pow_succ', Nat.mod_mul]
    omega

/-- A text of digits consists of the lowest digits, as many as it has, of its number. -/
theorem lowDigits_value {text : List Char} (digit : ∀ c ∈ text, isDigit c = true) :
    lowDigits text.length (value text) = text := by
  induction text using List.reverseRecOn with
  | nil => rfl
  | append_singleton text c ih =>
    rw [List.forall_mem_append, List.forall_mem_singleton] at digit
    obtain ⟨number, small, rfl⟩ := exists_digitChar digit.2
    have last : digitChar (10 * value text + number) = digitChar number := by
      rw [digitChar, digitChar, Nat.mul_add_mod]
    have before : (10 * value text + number) / 10 = value text := by omega
    rw [value_concat, digitValue_digitChar small, List.length_append, List.length_singleton,
      lowDigits, last, before, ih digit.1]

theorem lowDigits_mod (width number : Nat) :
    lowDigits width (number % 10 ^ width) = lowDigits width number := by
  have same := @lowDigits_value (lowDigits width number) isDigit_of_mem_lowDigits
  rwa [lowDigits_length, value_lowDigits] at same

/-- The end of a text of digits consists of the lowest digits of the whole number. -/
theorem lowDigits_value_append (first : List Char) {second : List Char}
    (digit : ∀ c ∈ second, isDigit c = true) :
    lowDigits second.length (value (first ++ second)) = second := by
  rw [← lowDigits_mod, value_append, Nat.mul_add_mod', Nat.mod_eq_of_lt (value_lt digit),
    lowDigits_value digit]

/-- What is in front of the lowest digits is the quotient by their power of ten. -/
theorem value_append_div (first : List Char) {second : List Char}
    (digit : ∀ c ∈ second, isDigit c = true) :
    value (first ++ second) / 10 ^ second.length = value first := by
  rw [value_append, Nat.mul_comm, Nat.mul_add_div (Nat.pow_pos (by decide)),
    Nat.div_eq_of_lt (value_lt digit), Nat.add_zero]

/-- A text of digits without superfluous zeros in front consists of the digits of its number. -/
theorem digits_value {text : List Char} (digit : ∀ c ∈ text, isDigit c = true)
    (nonempty : text ≠ []) (least : text.head? = some '0' → text = ['0']) :
    digits (value text) = text := by
  induction text using List.reverseRecOn with
  | nil => exact absurd rfl nonempty
  | append_singleton text c ih =>
    rw [List.forall_mem_append, List.forall_mem_singleton] at digit
    obtain ⟨number, small, rfl⟩ := exists_digitChar digit.2
    have written : number.digitChar = digitChar number := by
      have all : ∀ number < 10, number.digitChar = digitChar number := by decide
      exact all number small
    rw [value_concat, digitValue_digitChar small, digits, Nat.toDigits_eq_if (by decide)]
    by_cases alone : text = []
    · subst alone
      have single : 10 * value [] + number = number := Nat.zero_add number
      rw [single, if_pos small, written, List.nil_append]
    · have head : text.head? ≠ some '0' := by
        intro zero
        have whole := least (by rw [List.head?_append, zero]; rfl)
        have lengths := congrArg List.length whole
        rw [List.length_append, List.length_singleton, List.length_singleton] at lengths
        exact alone (List.eq_nil_of_length_eq_zero (by omega))
      have before := ih digit.1 alone (fun zero => absurd zero head)
      have positive : value text ≠ 0 := by
        intro zero
        rw [zero] at before
        exact head (by rw [← before]; rfl)
      have quotient : (10 * value text + number) / 10 = value text := by omega
      have remainder : (10 * value text + number) % 10 = number := by omega
      rw [if_neg (by omega), quotient, remainder, written]
      exact congrArg (· ++ [digitChar number]) before

/-! ## Padded digits -/

/-- How a number is written with a least width: in digits, with zeros in front up to that width
and no further. -/
structure Padded (width number : Nat) (text : List Char) : Prop where
  digit : ∀ c ∈ text, isDigit c = true
  value_eq : value text = number
  width_le : width ≤ text.length
  least : width < text.length → text.head? ≠ some '0'

theorem Padded.not_mem {width number : Nat} {text : List Char} (padded : Padded width number text)
    {c : Char} (other : isDigit c = false) : c ∉ text :=
  fun member => absurd (padded.digit c member) (by simp [other])

theorem padded_paddedDigits (width number : Nat) :
    Padded width number (paddedDigits width number) := by
  constructor
  case digit => exact fun c => isDigit_of_mem_paddedDigits
  all_goals rw [paddedDigits, Nat.pow_eq]; split
  case value_eq.isTrue short => rw [value_lowDigits, Nat.mod_eq_of_lt short]
  case value_eq.isFalse => exact value_digits number
  case width_le.isTrue => rw [lowDigits_length]
  case width_le.isFalse long =>
    by_contra narrow
    have bound := @value_lt (digits number) fun c => isDigit_of_mem_digits
    have wider : 10 ^ (digits number).length ≤ 10 ^ width :=
      Nat.pow_le_pow_right (by decide) (Nat.le_of_not_le narrow)
    rw [value_digits] at bound
    exact long (bound.trans_le wider)
  case least.isTrue =>
    rw [lowDigits_length]
    exact fun wider => absurd wider (Nat.lt_irrefl width)
  case least.isFalse long =>
    intro _ zero
    rw [eq_zero_of_head?_digits zero] at long
    exact long (Nat.pow_pos (by decide))

theorem padded_digits (number : Nat) : Padded 1 number (digits number) where
  digit _ := isDigit_of_mem_digits
  value_eq := value_digits number
  width_le := List.length_pos_iff.2 (digits_ne_nil number)
  least long zero := by
    rw [eq_zero_of_head?_digits zero] at long
    exact absurd long (by decide)

/-- Without a width, there is one text of a number. -/
theorem Padded.eq_digits {number : Nat} {text : List Char} (padded : Padded 1 number text) :
    text = digits number := by
  have nonempty := List.ne_nil_of_length_pos padded.width_le
  rw [← padded.value_eq, digits_value padded.digit nonempty]
  intro zero
  have short : text.length = 1 := by
    by_contra other
    exact padded.least (lt_of_le_of_ne padded.width_le (Ne.symm other)) zero
  obtain ⟨c, rfl⟩ := List.length_eq_one_iff.1 short
  exact congrArg (· :: []) (Option.some.inj zero)

theorem length_paddedDigits {width number : Nat} (short : number < 10 ^ width) :
    (paddedDigits width number).length = width := by
  rw [paddedDigits, Nat.pow_eq, if_pos short, lowDigits_length]

end InstrumentBench.Decimal
