/-!
# Decimal digits

Reading and writing natural numbers in decimal, with or without a fixed number
of digits.
-/

namespace InstrumentBench.Decimal

/-- The character of a digit below ten. -/
def digitChar (digit : Nat) : Char :=
  Char.ofNat (48 + digit % 10)

/-- The lowest `width` digits of a number, leading zeros included. -/
def lowDigits : (width number : Nat) → List Char
  | 0, _ => []
  | width + 1, number => lowDigits width (number / 10) ++ [digitChar number]

/-- The digits of a number without leading zeros; zero has the one digit 0. -/
def digits (number : Nat) : List Char :=
  Nat.toDigits 10 number

/-- The digits of a number, with leading zeros up to `width` digits. -/
def paddedDigits (width number : Nat) : List Char :=
  if number < Nat.pow 10 width then lowDigits width number else digits number

/-- Whether a character is one of the ten ASCII digits. -/
def isDigit (c : Char) : Bool :=
  '0' ≤ c && c ≤ '9'

/-- The value of a digit character. -/
def digitValue (c : Char) : Nat :=
  c.toNat - 48

/-- The number that continues `start` with more digits. -/
def valueFrom (start : Nat) (text : List Char) : Nat :=
  text.foldl (fun value c => 10 * value + digitValue c) start

/-- The number that a list of digits denotes. -/
def value (text : List Char) : Nat :=
  valueFrom 0 text

@[simp] theorem lowDigits_length (width number : Nat) :
    (lowDigits width number).length = width := by
  induction width generalizing number with
  | zero => rfl
  | succ width ih => simp [lowDigits, ih]

theorem valueFrom_append (start : Nat) (first second : List Char) :
    valueFrom start (first ++ second) = valueFrom (valueFrom start first) second :=
  List.foldl_append

end InstrumentBench.Decimal
