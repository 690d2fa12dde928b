import InstrumentBench.Decimal.Rounding
import Mathlib.Algebra.Order.Field.Basic
import Mathlib.Algebra.Order.Field.Rat
import Mathlib.Data.Rat.Cast.Order
import Mathlib.Tactic.FieldSimp
import Mathlib.Tactic.Linarith
import Mathlib.Tactic.Positivity
import Mathlib.Tactic.Ring

/-!
# Nearest natural numbers

What rounding to the nearest natural number means on the rational numbers, apart from the division
that computes it (`isNearest_roundHalfEven`).
-/

namespace InstrumentBench.Decimal

/-- A distance in units of some scale. -/
theorem abs_sub_div_mul {scale : ℚ} (positive : 0 < scale) (number multiple : ℚ) :
    |number - multiple / scale| * scale = |number * scale - multiple| := by
  rw [← abs_of_pos positive, ← abs_mul, abs_of_pos positive, sub_mul,
    div_mul_cancel₀ _ positive.ne']

/-- The natural number nearest to a rational number, the even one when two are equally near. -/
structure IsNearest (number : ℚ) (rounded : ℕ) : Prop where
  near : |number - rounded| ≤ 1 / 2
  even : |number - rounded| = 1 / 2 → Even rounded

namespace IsNearest

variable {number : ℚ} {rounded : ℕ}

/-- Strictly within half a unit there is no tie. -/
theorem of_lt (near : |number - rounded| < 1 / 2) : IsNearest number rounded :=
  ⟨near.le, fun tie => absurd tie near.ne⟩

/-- Other integers are at least half a unit away. -/
theorem half_le (nearest : IsNearest number rounded) {other : ℤ} (different : other ≠ rounded) :
    1 / 2 ≤ |number - other| := by
  have apart : (1 : ℚ) ≤ |(other : ℚ) - rounded| := by
    have integer : (1 : ℤ) ≤ |other - rounded| := Int.one_le_abs (sub_ne_zero.2 different)
    exact_mod_cast integer
  have triangle := abs_sub_le (other : ℚ) number rounded
  rw [abs_sub_comm (other : ℚ) number] at triangle
  linarith [nearest.near]

/-- No integer is nearer. -/
theorem le_abs (nearest : IsNearest number rounded) (other : ℤ) :
    |number - rounded| ≤ |number - other| := by
  by_cases same : other = rounded
  · rw [same, Int.cast_natCast]
  · exact nearest.near.trans (nearest.half_le same)

/-- If another integer is as near, then both are half a unit away. -/
theorem eq_half (nearest : IsNearest number rounded) {other : ℤ} (different : other ≠ rounded)
    (tie : |number - other| = |number - rounded|) : |number - rounded| = 1 / 2 :=
  le_antisymm nearest.near (tie ▸ nearest.half_le different)

/-- What is within half a unit of a number is its nearest one, if it is even or strictly within. -/
theorem of_near {other : ℚ} (nearest : IsNearest other rounded)
    (nearer : |number - rounded| ≤ |other - rounded|) : IsNearest number rounded where
  near := nearer.trans nearest.near
  even tie := nearest.even (le_antisymm nearest.near (tie ▸ nearer))

theorem unique (nearest : IsNearest number rounded) {other : ℕ} (again : IsNearest number other) :
    rounded = other := by
  by_contra different
  -- Both are half a unit away and even, but they are neighbours.
  have notRounded : (other : ℤ) ≠ rounded := fun same => different (by exact_mod_cast same.symm)
  have notOther : (rounded : ℤ) ≠ other := fun same => different (by exact_mod_cast same)
  have half : |number - rounded| = 1 / 2 :=
    le_antisymm nearest.near (by simpa using again.half_le notOther)
  have otherHalf : |number - other| = 1 / 2 :=
    le_antisymm again.near (by simpa using nearest.half_le notRounded)
  obtain ⟨k, even⟩ := nearest.even half
  obtain ⟨l, evenOther⟩ := again.even otherHalf
  have close : |(other : ℤ) - rounded| ≤ 1 := by
    have triangle := abs_sub_le (other : ℚ) number rounded
    rw [abs_sub_comm (other : ℚ) number, half, otherHalf] at triangle
    have : |((other : ℤ) - rounded : ℚ)| ≤ 1 := by
      push_cast
      linarith
    exact_mod_cast this
  rw [abs_le] at close
  omega

/-- A nearest number that is even on a tie is the one. -/
theorem eq_of_le {other : ℕ} (nearest : IsNearest number rounded)
    (near : |number - other| ≤ |number - rounded|)
    (even : |number - other| = |number - rounded| → Even other) : other = rounded := by
  have tie := le_antisymm near (nearest.le_abs other)
  have again : IsNearest number other := ⟨tie.trans_le nearest.near, fun _ => even tie⟩
  exact again.unique nearest

/-- Rounding up does not pass a natural number. -/
theorem rounded_le (nearest : IsNearest number rounded) {bound : ℕ} (le : number ≤ bound) :
    rounded ≤ bound := by
  by_contra above
  have apart : (bound + 1 : ℚ) ≤ rounded := by exact_mod_cast not_le.1 above
  have near := (abs_le.1 nearest.near).1
  linarith

/-- Nor does rounding down. -/
theorem le_rounded (nearest : IsNearest number rounded) {bound : ℕ} (le : bound ≤ number) :
    bound ≤ rounded := by
  by_contra below
  have apart : (rounded + 1 : ℚ) ≤ bound := by exact_mod_cast not_le.1 below
  have near := (abs_le.1 nearest.near).2
  linarith

end IsNearest

/-- A tie is rounded to an even number. -/
theorem even_roundHalfEven {numerator denominator : ℕ} (positive : 0 < denominator)
    (tie : 2 * numerator = 2 * (roundHalfEven numerator denominator * denominator) + denominator ∨
      2 * numerator + denominator = 2 * (roundHalfEven numerator denominator * denominator)) :
    Even (roundHalfEven numerator denominator) := by
  have division := Nat.div_add_mod numerator denominator
  have small := Nat.mod_lt numerator positive
  have commuted := Nat.mul_comm denominator (numerator / denominator)
  rw [Nat.even_iff]
  simp only [roundHalfEven] at tie ⊢
  split at tie
  next down =>
    rw [if_pos down]
    omega
  next up =>
    rw [if_neg up]
    rw [Nat.add_mul, Nat.one_mul] at tie
    omega

theorem isNearest_roundHalfEven (numerator : ℕ) {denominator : ℕ} (positive : 0 < denominator) :
    IsNearest (numerator / denominator) (roundHalfEven numerator denominator) := by
  have within := roundHalfEven_within numerator positive
  have tied := @even_roundHalfEven numerator denominator positive
  generalize roundHalfEven numerator denominator = rounded at within tied ⊢
  have denominator_pos : (0 : ℚ) < denominator := by exact_mod_cast positive
  have scaled : (numerator / denominator - rounded : ℚ) =
      (2 * numerator - 2 * (rounded * denominator)) / (2 * denominator) := by
    field_simp
  have distance : |(numerator / denominator - rounded : ℚ)| =
      |(2 * numerator - 2 * (rounded * denominator) : ℚ)| / (2 * denominator) := by
    rw [scaled, abs_div, abs_of_pos (mul_pos two_pos denominator_pos)]
  have half : (1 / 2 : ℚ) = denominator / (2 * denominator) := by
    field_simp
  constructor
  case near =>
    have low : (2 * numerator : ℚ) ≤ 2 * (rounded * denominator) + denominator := by
      exact_mod_cast within.1
    have high : (2 * (rounded * denominator) : ℚ) ≤ 2 * numerator + denominator := by
      exact_mod_cast within.2
    rw [distance, half]
    gcongr
    rw [abs_le]
    constructor <;> linarith
  case even =>
    intro tie
    rw [distance, half, div_left_inj' (by positivity)] at tie
    apply tied
    rcases eq_or_eq_neg_of_abs_eq tie with above | below
    · left
      exact_mod_cast (by linarith : (2 * numerator : ℚ) = 2 * (rounded * denominator) + denominator)
    · right
      exact_mod_cast (by linarith : (2 * numerator + denominator : ℚ) = 2 * (rounded * denominator))

end InstrumentBench.Decimal
