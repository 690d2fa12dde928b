import InstrumentBench.Decimal.Binary64
import InstrumentBench.Proofs.Decimal.Rounding
import Mathlib.Algebra.Order.Field.Power
import Mathlib.Tactic.NormNum

/-!
# Correct rounding to binary64

The number that a magnitude stands for, the magnitudes of the format, each in its one normal form,
and the magnitude nearest to a number, a tie going to the even mantissa.  The exponent has no
greatest value here; a magnitude is finite if its exponent is one of the format, which is how the
format itself says what overflows.  A number is correctly rounded on the grid that gives it 53 bits,
and there only (`Grid.rounds_iff`).
-/

namespace InstrumentBench.Decimal.Magnitude

/-- The number that a magnitude stands for. -/
def toRat (x : Magnitude) : ℚ :=
  x.mantissa * 2 ^ x.exponent

/-- The form in which a magnitude is kept: 53 bits in the mantissa, or fewer at the least
exponent. -/
structure Normal (x : Magnitude) : Prop where
  mantissa_lt : x.mantissa < 2 ^ 53
  least_le : -1074 ≤ x.exponent
  leading : 2 ^ 52 ≤ x.mantissa ∨ x.exponent = -1074

/-- A magnitude whose exponent is one of the format. -/
def Finite (x : Magnitude) : Prop :=
  x.exponent ≤ 971

instance (x : Magnitude) : Decidable x.Finite :=
  inferInstanceAs (Decidable (_ ≤ _))

/-- The magnitude nearest to a number, the one with an even mantissa when two are equally near. -/
structure Rounds (number : ℚ) (x : Magnitude) : Prop where
  normal : x.Normal
  nearest : ∀ y : Magnitude, y.Normal → |number - x.toRat| ≤ |number - y.toRat|
  even : ∀ y : Magnitude, y.Normal → y ≠ x → |number - y.toRat| = |number - x.toRat| →
    Even x.mantissa

/-- A multiple of a power of two is also one of a lower power. -/
theorem exists_toRat_eq {x : Magnitude} {exponent : ℤ} (lower : exponent ≤ x.exponent) :
    x.toRat = (x.mantissa * 2 ^ (x.exponent - exponent).toNat : ℕ) * 2 ^ exponent := by
  obtain ⟨shift, same⟩ := Int.eq_ofNat_of_zero_le (sub_nonneg.2 lower)
  have split : x.exponent = shift + exponent := by omega
  rw [toRat, same, Int.toNat_natCast, split, zpow_add₀ two_ne_zero, zpow_natCast]
  push_cast
  ring

/-- A number has one normal form. -/
theorem Normal.eq_of_toRat_eq {x y : Magnitude} (normal : x.Normal) (other : y.Normal)
    (same : x.toRat = y.toRat) : x = y := by
  wlog lower : x.exponent ≤ y.exponent generalizing x y
  · exact (this other normal same.symm (le_of_not_ge lower)).symm
  rw [exists_toRat_eq lower, toRat, mul_left_inj' (zpow_ne_zero _ two_ne_zero),
    Nat.cast_inj] at same
  rcases x with ⟨mantissa, exponent⟩
  rcases y with ⟨mantissa', exponent'⟩
  dsimp only at same lower
  by_cases level : exponent' = exponent
  · subst level
    simp_all
  · -- A higher exponent leaves no room for a mantissa of 53 bits.
    have leading : 2 ^ 52 ≤ mantissa' := by
      rcases other.leading with leading | least
      · exact leading
      · have := normal.least_le
        dsimp only at *
        omega
    have shifted : 2 ^ 1 ≤ 2 ^ (exponent' - exponent).toNat :=
      Nat.pow_le_pow_right (by decide) (by omega)
    have bits := normal.mantissa_lt
    have tooLarge : 2 ^ 52 * 2 ^ 1 ≤ mantissa' * 2 ^ (exponent' - exponent).toNat :=
      Nat.mul_le_mul leading shifted
    dsimp only at bits
    omega

/-- The normal form of a mantissa of up to 53 bits, where the greatest one may just overflow. -/
def carried (mantissa : ℕ) (exponent : ℤ) : Magnitude :=
  if mantissa = 2 ^ 53 then ⟨2 ^ 52, exponent + 1⟩ else ⟨mantissa, exponent⟩

theorem toRat_carried (mantissa : ℕ) (exponent : ℤ) :
    (carried mantissa exponent).toRat = mantissa * 2 ^ exponent := by
  unfold carried
  split
  next full =>
    rw [toRat, full, zpow_add₀ two_ne_zero]
    norm_num
    ring
  next => rfl

/-- The grid of the multiples of a power of two on which a number is rounded: there it has 53 bits
before the point, or fewer at the least exponent. -/
structure Grid (number : ℚ) (exponent : ℤ) : Prop where
  least_le : -1074 ≤ exponent
  below : number < 2 ^ 53 * 2 ^ exponent
  above : 2 ^ 52 * 2 ^ exponent ≤ number ∨ exponent = -1074

section Rounding

variable {number : ℚ} {exponent : ℤ} {mantissa : ℕ}

theorem distance_eq (number : ℚ) (exponent : ℤ) (multiple : ℤ) :
    |number - multiple * 2 ^ exponent| =
      |number / 2 ^ exponent - multiple| * 2 ^ exponent := by
  have positive : (0 : ℚ) < 2 ^ exponent := by positivity
  rw [abs_sub_comm, abs_sub_comm (number / _), abs_sub_div_mul positive]

theorem Grid.normal_carried (grid : Grid number exponent)
    (nearest : IsNearest (number / 2 ^ exponent) mantissa) :
    (carried mantissa exponent).Normal := by
  have positive : (0 : ℚ) < 2 ^ exponent := by positivity
  have mantissa_le : mantissa ≤ 2 ^ 53 := by
    apply nearest.rounded_le
    rw [div_le_iff₀ positive]
    exact_mod_cast grid.below.le
  have leading : 2 ^ 52 ≤ mantissa ∨ exponent = -1074 := by
    refine grid.above.imp_left fun above => nearest.le_rounded ?_
    rw [le_div_iff₀ positive]
    exact_mod_cast above
  have least := grid.least_le
  unfold carried
  split
  next => exact ⟨Nat.pow_lt_pow_right (by decide) (by decide), by dsimp only; omega, .inl le_rfl⟩
  next notFull => exact ⟨lt_of_le_of_ne mantissa_le notFull, least, leading⟩

/-- The nearest multiple on the grid is at least as near as any other. -/
theorem distance_carried_le (nearest : IsNearest (number / 2 ^ exponent) mantissa)
    (multiple : ℤ) :
    |number - (carried mantissa exponent).toRat| ≤ |number - multiple * 2 ^ exponent| := by
  have here := distance_eq number exponent mantissa
  rw [Int.cast_natCast] at here
  rw [toRat_carried, here, distance_eq]
  exact mul_le_mul_of_nonneg_right (nearest.le_abs multiple) (by positivity)

/-- A magnitude that is as near as that multiple is on the grid itself: those between its points
are all too small. -/
theorem Grid.exponent_le (grid : Grid number exponent)
    (nearest : IsNearest (number / 2 ^ exponent) mantissa) {y : Magnitude} (normal : y.Normal)
    (near : |number - y.toRat| ≤ |number - (carried mantissa exponent).toRat|) :
    exponent ≤ y.exponent := by
  by_contra lower
  have least := normal.least_le
  have above := grid.above.resolve_right (by omega)
  have small : y.toRat < 2 ^ 52 * 2 ^ exponent := by
    have bits : (y.mantissa : ℚ) < 2 ^ 53 := by exact_mod_cast normal.mantissa_lt
    have shifted : (2 : ℚ) ^ y.exponent ≤ 2 ^ (exponent - 1) :=
      zpow_le_zpow_right₀ one_le_two (by omega)
    calc y.toRat < 2 ^ 53 * 2 ^ y.exponent := by
          unfold toRat
          gcongr
      _ ≤ 2 ^ 53 * 2 ^ (exponent - 1) := by gcongr
      _ = 2 ^ 52 * 2 ^ exponent := by
          rw [zpow_sub_one₀ two_ne_zero]
          ring
  have corner := distance_carried_le nearest (2 ^ 52)
  rw [Int.cast_pow, Int.cast_ofNat, abs_of_nonneg (sub_nonneg.2 above)] at corner
  rw [abs_of_pos (sub_pos.2 (small.trans_le above))] at near
  linarith

/-- What is as near as the nearest multiple is another multiple. -/
theorem Grid.exists_multiple (grid : Grid number exponent)
    (nearest : IsNearest (number / 2 ^ exponent) mantissa) {y : Magnitude} (normal : y.Normal)
    (different : y ≠ carried mantissa exponent)
    (near : |number - y.toRat| ≤ |number - (carried mantissa exponent).toRat|) :
    ∃ shift : ℕ, y.toRat = (y.mantissa * 2 ^ shift : ℕ) * 2 ^ exponent ∧
      y.mantissa * 2 ^ shift ≠ mantissa := by
  have value := exists_toRat_eq (grid.exponent_le nearest normal near)
  refine ⟨_, value, fun same => different ?_⟩
  apply normal.eq_of_toRat_eq (grid.normal_carried nearest)
  rw [value, toRat_carried, same]

theorem even_carried (even : Even mantissa) (exponent : ℤ) :
    Even (carried mantissa exponent).mantissa := by
  unfold carried
  split
  next => exact ⟨2 ^ 51, by norm_num⟩
  next => exact even

/-- A tie with another multiple is a tie on the grid, half a unit from both. -/
theorem half_of_tie (nearest : IsNearest (number / 2 ^ exponent) mantissa) {other : ℕ}
    (different : other ≠ mantissa)
    (tie : |number - other * 2 ^ exponent| = |number - (carried mantissa exponent).toRat|) :
    |number / 2 ^ exponent - mantissa| = 1 / 2 ∧
      |number / 2 ^ exponent - other| = |number / 2 ^ exponent - mantissa| := by
  have positive : (0 : ℚ) < 2 ^ exponent := by positivity
  have same := tie
  rw [toRat_carried, ← Int.cast_natCast, ← Int.cast_natCast mantissa, distance_eq, distance_eq,
    mul_left_inj' positive.ne', Int.cast_natCast, Int.cast_natCast] at same
  have apart : (other : ℤ) ≠ mantissa := by exact_mod_cast different
  exact ⟨nearest.eq_half apart (by exact_mod_cast same), same⟩

/-- On its grid a number has one correctly rounded magnitude. -/
theorem Grid.rounds_iff (grid : Grid number exponent)
    (nearest : IsNearest (number / 2 ^ exponent) mantissa) {x : Magnitude} :
    Rounds number x ↔ x = carried mantissa exponent := by
  have normal := grid.normal_carried nearest
  have toMultiple := distance_carried_le nearest
  constructor
  · intro rounds
    by_contra different
    have near := rounds.nearest _ normal
    obtain ⟨shift, value, other⟩ := grid.exists_multiple nearest rounds.normal different near
    have far := toMultiple (x.mantissa * 2 ^ shift : ℕ)
    rw [Int.cast_natCast, ← value] at far
    -- Both are nearest multiples, and there is one.
    have tie := le_antisymm near far
    have even := rounds.even _ normal (Ne.symm different) tie.symm
    rw [value] at tie
    obtain ⟨-, same⟩ := half_of_tie nearest other tie
    exact other (nearest.eq_of_le same.le fun _ => even.mul_right _)
  · rintro rfl
    refine ⟨normal, fun y yNormal => ?_, fun y yNormal different tie => ?_⟩
    · by_contra nearer
      have near := (lt_of_not_ge nearer).le
      by_cases same : y = carried mantissa exponent
      · exact nearer (by rw [same])
      obtain ⟨shift, value, -⟩ := grid.exists_multiple nearest yNormal same near
      have far := toMultiple (y.mantissa * 2 ^ shift : ℕ)
      rw [Int.cast_natCast, ← value] at far
      exact nearer far
    · obtain ⟨shift, value, other⟩ := grid.exists_multiple nearest yNormal different tie.le
      rw [value] at tie
      exact even_carried (nearest.even (half_of_tie nearest other tie).1) exponent

end Rounding

/-! ## Finite magnitudes -/

/-- The greatest finite magnitude. -/
def greatest : Magnitude :=
  ⟨2 ^ 53 - 1, 971⟩

theorem normal_greatest : greatest.Normal :=
  ⟨by decide, by decide, by decide⟩

theorem Normal.le_greatest {x : Magnitude} (normal : x.Normal) (finite : x.Finite) :
    x.toRat ≤ greatest.toRat := by
  unfold toRat
  gcongr
  · exact Nat.le_sub_one_of_lt normal.mantissa_lt
  · exact one_le_two
  · exact finite

/-- What is finite is what is below the next power of two. -/
theorem Normal.finite_iff {x : Magnitude} (normal : x.Normal) :
    x.Finite ↔ x.toRat < 2 ^ (1024 : ℤ) := by
  have bits : (x.mantissa : ℚ) < 2 ^ (53 : ℤ) := by exact_mod_cast normal.mantissa_lt
  constructor
  · intro finite
    calc x.toRat < 2 ^ (53 : ℤ) * 2 ^ x.exponent := by
          unfold toRat
          gcongr
      _ ≤ 2 ^ (53 : ℤ) * 2 ^ (971 : ℤ) := by
          gcongr
          · exact one_le_two
          · exact finite
      _ = 2 ^ (1024 : ℤ) := by rw [← zpow_add₀ two_ne_zero]; rfl
  · contrapose!
    intro infinite
    have exponent_ge : 972 ≤ x.exponent := Int.add_one_le_of_lt (not_le.1 infinite)
    have leading : ((2 ^ 52 : ℕ) : ℚ) ≤ x.mantissa := by
      exact_mod_cast normal.leading.resolve_right (by omega)
    calc (2 : ℚ) ^ (1024 : ℤ) = 2 ^ (52 : ℤ) * 2 ^ (972 : ℤ) := by
          rw [← zpow_add₀ two_ne_zero]
          rfl
      _ ≤ (2 ^ 52 : ℕ) * 2 ^ x.exponent := by
          rw [zpow_ofNat, Nat.cast_pow, Nat.cast_ofNat]
          gcongr
          exact one_le_two
      _ ≤ x.toRat := by
          unfold toRat
          gcongr

/-- What is rounded from the next power of two on overflows. -/
theorem Rounds.not_finite {number : ℚ} {x : Magnitude} (rounds : Rounds number x)
    (large : 2 ^ (1024 : ℤ) ≤ number) : ¬x.Finite := by
  rw [rounds.normal.finite_iff]
  intro small
  have next : (⟨2 ^ 52, 972⟩ : Magnitude).toRat = 2 ^ (1024 : ℤ) := by
    rw [toRat, Nat.cast_pow, Nat.cast_ofNat, ← zpow_natCast, ← zpow_add₀ two_ne_zero]
    rfl
  have near := rounds.nearest ⟨2 ^ 52, 972⟩ ⟨by norm_num, by norm_num, .inl le_rfl⟩
  rw [next, abs_of_nonneg (sub_nonneg.2 large), abs_of_nonneg (by linarith)] at near
  linarith

/-- What is at most a finite magnitude does not overflow. -/
theorem Rounds.finite {number : ℚ} {x y : Magnitude} (rounds : Rounds number x) (normal : y.Normal)
    (finite : y.Finite) (le : number ≤ y.toRat) : x.Finite := by
  rw [normal.finite_iff] at finite
  rw [rounds.normal.finite_iff]
  by_contra large
  have near := rounds.nearest y normal
  rw [abs_of_nonpos (sub_nonpos.2 le), abs_of_nonpos (by linarith)] at near
  linarith

/-- A number of at most 53 bits is a magnitude, unless its last bit is below the least exponent. -/
theorem exists_normal {mantissa : ℕ} (bits : mantissa < 2 ^ 53) {exponent : ℤ}
    (least : -1074 ≤ exponent) : ∃ x : Magnitude, x.Normal ∧ x.toRat = mantissa * 2 ^ exponent := by
  obtain ⟨shift, rfl⟩ : ∃ shift : ℕ, exponent = -1074 + shift :=
    ⟨(exponent + 1074).toNat, by omega⟩
  induction shift generalizing mantissa with
  | zero => exact ⟨⟨mantissa, -1074⟩, ⟨bits, le_rfl, .inr rfl⟩, rfl⟩
  | succ shift ih =>
    by_cases leading : 2 ^ 52 ≤ mantissa
    · exact ⟨⟨mantissa, _⟩, ⟨bits, least, .inl leading⟩, rfl⟩
    · -- The lower exponent leaves room for one more bit.
      obtain ⟨x, normal, same⟩ := @ih (2 * mantissa) (by omega) (by omega)
      refine ⟨x, normal, ?_⟩
      rw [same, Nat.cast_succ, ← add_assoc, zpow_add_one₀ two_ne_zero]
      push_cast
      ring

end InstrumentBench.Decimal.Magnitude
