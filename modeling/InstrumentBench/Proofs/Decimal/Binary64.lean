import InstrumentBench.Proofs.Decimal.Nearest

/-!
# The arithmetic of binary64

A quotient and a decimal are read as the magnitude nearest to them if that is finite
(`ofRatio?_eq_some`, `ofDecimal?_eq_some`), and a magnitude is counted in units of a last place to
the nearest unit (`isNearest_units`).
-/

namespace InstrumentBench.Decimal.Magnitude

/-! ## The nearest magnitude of a quotient -/

/-- A power as a quotient of powers with natural exponents. -/
theorem zpow_eq_div {base : ℚ} (nonzero : base ≠ 0) (power : ℤ) :
    base ^ power = base ^ power.toNat / base ^ (-power).toNat := by
  rw [← zpow_natCast, ← zpow_natCast, ← zpow_sub₀ nonzero, Int.toNat_sub_toNat_neg]

section Quotient

variable {numerator denominator : ℕ}

theorem div_onGrid (numerator denominator : ℕ) (exponent : ℤ) :
    ((onGrid numerator denominator exponent).1 : ℚ) / (onGrid numerator denominator exponent).2 =
      numerator / denominator / 2 ^ exponent := by
  rw [zpow_eq_div two_ne_zero, onGrid, Nat.pow_eq, Nat.pow_eq]
  push_cast
  field_simp

theorem onGrid_pos (numerator : ℕ) (positive : 0 < denominator) (exponent : ℤ) :
    0 < (onGrid numerator denominator exponent).2 :=
  Nat.mul_pos positive (Nat.pow_pos two_pos)

/-- Below the least exponent of the format, a grid gives way to the finest one. -/
theorem Grid.max_least {number : ℚ} {exponent : ℤ} (below : number < 2 ^ 53 * 2 ^ exponent)
    (above : 2 ^ 52 * 2 ^ exponent ≤ number) : Grid number (max exponent (-1074)) := by
  rcases le_total (-1074) exponent with normal | subnormal
  · rw [max_eq_left normal]
    exact ⟨normal, below, .inl above⟩
  · rw [max_eq_right subnormal]
    refine ⟨le_rfl, below.trans_le ?_, .inr rfl⟩
    gcongr
    exact one_le_two

theorem log2_bounds {number : ℕ} (positive : 0 < number) :
    (2 : ℚ) ^ (number.log2 : ℤ) ≤ number ∧ (number : ℚ) < 2 ^ (number.log2 + 1 : ℤ) := by
  constructor
  · exact_mod_cast Nat.log2_self_le positive.ne'
  · exact_mod_cast @Nat.lt_log2_self number

/-- The lengths of the two sides tell a quotient up to a factor of two either way. -/
theorem quotient_bounds (numerator_pos : 0 < numerator) (denominator_pos : 0 < denominator)
    {near : ℤ} (length : near = numerator.log2 - denominator.log2 - 53) :
    2 ^ 52 * 2 ^ near ≤ (numerator / denominator : ℚ) ∧
      (numerator / denominator : ℚ) < 2 ^ 53 * 2 ^ (near + 1) := by
  obtain ⟨numerator_ge, numerator_lt⟩ := log2_bounds numerator_pos
  obtain ⟨denominator_ge, denominator_lt⟩ := log2_bounds denominator_pos
  have positive : (0 : ℚ) < denominator := by exact_mod_cast denominator_pos
  constructor
  · rw [le_div_iff₀ positive]
    calc (2 : ℚ) ^ 52 * 2 ^ near * denominator
        ≤ 2 ^ (52 : ℤ) * 2 ^ near * 2 ^ (denominator.log2 + 1 : ℤ) := by
          rw [zpow_ofNat]
          gcongr
      _ = 2 ^ (numerator.log2 : ℤ) := by
        rw [← zpow_add₀ two_ne_zero, ← zpow_add₀ two_ne_zero]
        congr 1
        omega
      _ ≤ numerator := numerator_ge
  · rw [div_lt_iff₀ positive]
    calc (numerator : ℚ) < 2 ^ (numerator.log2 + 1 : ℤ) := numerator_lt
      _ = 2 ^ (53 : ℤ) * 2 ^ (near + 1) * 2 ^ (denominator.log2 : ℤ) := by
        rw [← zpow_add₀ two_ne_zero, ← zpow_add₀ two_ne_zero]
        congr 1
        omega
      _ ≤ 2 ^ 53 * 2 ^ (near + 1) * denominator := by
        rw [zpow_ofNat]
        gcongr

theorem grid_gridExponent (numerator_pos : 0 < numerator) (denominator_pos : 0 < denominator) :
    Grid (numerator / denominator) (gridExponent numerator denominator) := by
  obtain ⟨above, below⟩ := quotient_bounds numerator_pos denominator_pos rfl
  unfold gridExponent
  generalize (numerator.log2 - denominator.log2 - 53 : ℤ) = near at above below ⊢
  dsimp only
  -- The division decides which of the two possible lengths the quotient has.
  have decided : (onGrid numerator denominator near).1 / (onGrid numerator denominator near).2 <
      2 ^ 53 ↔ (numerator / denominator : ℚ) < 2 ^ 53 * 2 ^ near := by
    have positive := onGrid_pos numerator denominator_pos near
    rw [Nat.div_lt_iff_lt_mul positive, ← div_lt_iff₀ (by positivity), ← div_onGrid,
      div_lt_iff₀ (by exact_mod_cast positive)]
    norm_cast
  rw [Nat.pow_eq]
  split
  next short => exact .max_least (decided.1 short) above
  next long =>
    refine .max_least below ?_
    rw [decided, not_lt] at long
    rw [zpow_add_one₀ two_ne_zero]
    linarith

/-- What is below half of the least positive magnitude is rounded to zero. -/
theorem rounds_iff_eq_zero {number : ℚ} (nonneg : 0 ≤ number) (small : number < 2 ^ (-1075 : ℤ))
    {x : Magnitude} : Rounds number x ↔ x = zero := by
  have half : (2 : ℚ) ^ (-1075 : ℤ) = 1 / 2 * 2 ^ (-1074 : ℤ) := by
    rw [show (-1075 : ℤ) = -1074 - 1 by decide, zpow_sub_one₀ two_ne_zero]
    ring
  have positive : (0 : ℚ) < 2 ^ (-1074 : ℤ) := by positivity
  rw [half] at small
  have grid : Grid number (-1074) := ⟨le_rfl, by linarith, .inr rfl⟩
  have nearest : IsNearest (number / 2 ^ (-1074 : ℤ)) 0 := by
    refine .of_lt ?_
    rw [Nat.cast_zero, sub_zero, abs_of_nonneg (by positivity)]
    exact (div_lt_iff₀ positive).2 small
  exact grid.rounds_iff nearest

theorem finite_eq_some {x y : Magnitude} :
    (if x.Finite then some x else none) = some y ↔ y = x ∧ y.Finite := by
  rw [Option.ite_none_right_eq_some, Option.some_inj]
  constructor
  · rintro ⟨finite, rfl⟩
    exact ⟨rfl, finite⟩
  · rintro ⟨rfl, finite⟩
    exact ⟨finite, rfl⟩

theorem some_zero_eq_some {number : ℚ} (nonneg : 0 ≤ number) (small : number < 2 ^ (-1075 : ℤ))
    {x : Magnitude} : some zero = some x ↔ Rounds number x ∧ x.Finite := by
  rw [rounds_iff_eq_zero nonneg small, ← finite_eq_some, if_pos (by decide)]

/-- The nearest multiple on the grid of a positive quotient. -/
def ofQuotient (numerator denominator : ℕ) : Magnitude :=
  let exponent := gridExponent numerator denominator
  carried (roundHalfEven (onGrid numerator denominator exponent).1
    (onGrid numerator denominator exponent).2) exponent

theorem rounds_iff_eq_ofQuotient (numerator_pos : 0 < numerator) (denominator_pos : 0 < denominator)
    {x : Magnitude} :
    Rounds (numerator / denominator) x ↔ x = ofQuotient numerator denominator := by
  have grid := grid_gridExponent numerator_pos denominator_pos
  unfold ofQuotient
  generalize gridExponent numerator denominator = exponent at grid ⊢
  have nearest := isNearest_roundHalfEven (onGrid numerator denominator exponent).1
    (onGrid_pos numerator denominator_pos exponent)
  rw [div_onGrid] at nearest
  exact grid.rounds_iff nearest

/-- Every quotient has a nearest magnitude, finite or not. -/
theorem exists_rounds (numerator : ℕ) (positive : 0 < denominator) :
    ∃ x, Rounds (numerator / denominator) x := by
  rcases numerator.eq_zero_or_pos with rfl | numerator_pos
  · rw [Nat.cast_zero, zero_div]
    exact ⟨zero, (rounds_iff_eq_zero le_rfl (by positivity)).2 rfl⟩
  · exact ⟨_, (rounds_iff_eq_ofQuotient numerator_pos positive).2 rfl⟩

theorem ofRatio?_eq (nonzero : numerator ≠ 0) :
    ofRatio? numerator denominator =
      if (ofQuotient numerator denominator).Finite then some (ofQuotient numerator denominator)
      else none := by
  unfold ofRatio? ofQuotient carried Finite
  rw [if_neg nonzero]
  dsimp only [Nat.pow_eq]
  split <;> rfl

/-- A quotient is read as the nearest magnitude, if that is finite. -/
theorem ofRatio?_eq_some (positive : 0 < denominator) {x : Magnitude} :
    ofRatio? numerator denominator = some x ↔ Rounds (numerator / denominator) x ∧ x.Finite := by
  by_cases nonzero : numerator = 0
  · rw [nonzero, Nat.cast_zero, zero_div]
    exact some_zero_eq_some le_rfl (by positivity)
  · rw [rounds_iff_eq_ofQuotient (Nat.pos_of_ne_zero nonzero) positive, ofRatio?_eq nonzero,
      finite_eq_some]

end Quotient

/-! ## The nearest magnitude of a decimal -/

section Decimal

variable {significand : ℕ} {power : ℤ}

/-- Ten is more than three doublings. -/
theorem two_pow_le_ten_pow (power : ℕ) : (2 : ℚ) ^ (3 * power) ≤ 10 ^ power := by
  rw [pow_mul]
  gcongr
  norm_num

theorem two_zpow_le_decimal (positive : 0 < significand) (large : 400 < power) :
    (2 : ℚ) ^ (1024 : ℤ) ≤ significand * 10 ^ power := by
  have one_le : (1 : ℚ) ≤ significand := by exact_mod_cast positive
  calc (2 : ℚ) ^ (1024 : ℤ) ≤ 2 ^ ((3 * 400 : ℕ) : ℤ) :=
        zpow_le_zpow_right₀ one_le_two (by decide)
    _ ≤ 10 ^ (400 : ℕ) := by
        rw [zpow_natCast]
        exact two_pow_le_ten_pow 400
    _ = 1 * 10 ^ (400 : ℤ) := by rw [one_mul, zpow_ofNat]
    _ ≤ significand * 10 ^ power := by
        gcongr
        norm_num

theorem decimal_lt_two_zpow (small : power + significand.log2 + 1 < -400) :
    (significand * 10 ^ power : ℚ) < 2 ^ (-1075 : ℤ) := by
  have bits : (significand : ℚ) < 2 ^ (significand.log2 + 1) := by
    exact_mod_cast @Nat.lt_log2_self significand
  calc (significand * 10 ^ power : ℚ) < 10 ^ (significand.log2 + 1) * 10 ^ power := by
        gcongr
        refine bits.trans_le ?_
        gcongr
        norm_num
    _ = 10 ^ (power + significand.log2 + 1) := by
        rw [← zpow_natCast, ← zpow_add₀ (by norm_num)]
        congr 1
        push_cast
        ring
    _ ≤ 10 ^ (-(400 : ℕ) : ℤ) := zpow_le_zpow_right₀ (by norm_num) small.le
    _ ≤ 2 ^ (-(3 * 400 : ℕ) : ℤ) := by
        rw [zpow_neg, zpow_neg, zpow_natCast, zpow_natCast]
        exact inv_anti₀ (by positivity) (two_pow_le_ten_pow 400)
    _ ≤ 2 ^ (-1075 : ℤ) := zpow_le_zpow_right₀ one_le_two (by decide)

/-- A decimal is read as the nearest magnitude, if that is finite. -/
theorem ofDecimal?_eq_some {x : Magnitude} :
    ofDecimal? significand power = some x ↔ Rounds (significand * 10 ^ power) x ∧ x.Finite := by
  unfold ofDecimal?
  split
  next vanishes =>
    rw [vanishes, Nat.cast_zero, zero_mul]
    exact some_zero_eq_some le_rfl (by positivity)
  next nonzero =>
  split
  next large =>
    refine iff_of_false nofun fun both => ?_
    exact both.1.not_finite (two_zpow_le_decimal (Nat.pos_of_ne_zero nonzero) large) both.2
  next =>
  split
  next small => exact some_zero_eq_some (by positivity) (decimal_lt_two_zpow small)
  next =>
    rw [Nat.pow_eq, Nat.pow_eq, ofRatio?_eq_some (Nat.pow_pos (by decide)), Nat.cast_mul,
      Nat.cast_pow, Nat.cast_pow, Nat.cast_ofNat, mul_div_assoc, ← zpow_eq_div (by norm_num)]

end Decimal

/-! ## The nearest multiple of a last place -/

theorem toRat_eq_ratio (x : Magnitude) : x.toRat = x.ratio.1 / x.ratio.2 := by
  rw [toRat, zpow_eq_div two_ne_zero, ratio, Nat.pow_eq, Nat.pow_eq, Nat.cast_mul, Nat.cast_pow,
    Nat.cast_pow, Nat.cast_ofNat, mul_div_assoc]

/-- The units of a last place are counted to the nearest one. -/
theorem isNearest_units (x : Magnitude) (places : ℕ) :
    IsNearest (x.toRat * 10 ^ places) (x.units places) := by
  have positive : 0 < x.ratio.2 := Nat.pow_pos two_pos
  have nearest := isNearest_roundHalfEven (x.ratio.1 * Nat.pow 10 places) positive
  rw [Nat.cast_mul, Nat.pow_eq, Nat.cast_pow, Nat.cast_ofNat, mul_div_right_comm,
    ← toRat_eq_ratio] at nearest
  exact nearest

theorem abs_sub_units (x : Magnitude) (places count : ℕ) :
    |x.toRat * 10 ^ places - count| = |count / 10 ^ places - x.toRat| * 10 ^ places := by
  have positive : (0 : ℚ) < 10 ^ places := by positivity
  rw [abs_sub_comm (count / 10 ^ places : ℚ), abs_sub_div_mul positive]

theorem exists_rounds_units (count places : ℕ) : ∃ x, Rounds (count / 10 ^ places) x := by
  have rounds := exists_rounds count (pow_pos (show 0 < 10 by decide) places)
  rwa [Nat.cast_pow, Nat.cast_ofNat] at rounds

/-- Rounding to a multiple of a last place does not pass an integer. -/
theorem units_le {x y : Magnitude} (le : x.toRat ≤ y.toRat) (integer : 0 ≤ y.exponent)
    (places : ℕ) : (x.units places / 10 ^ places : ℚ) ≤ y.toRat := by
  obtain ⟨count, natural⟩ : ∃ count : ℕ, y.toRat = count := by
    have value := exists_toRat_eq integer
    rw [zpow_zero, mul_one] at value
    exact ⟨_, value⟩
  have scaled : x.toRat * 10 ^ places ≤ (count * 10 ^ places : ℕ) := by
    push_cast
    rw [← natural]
    gcongr
  rw [div_le_iff₀ (by positivity), natural]
  exact_mod_cast (x.isNearest_units places).rounded_le scaled

/-- The multiple of a last place that is nearest to a finite magnitude is not read as more. -/
theorem Rounds.finite_units {x y : Magnitude} {places : ℕ} (normal : x.Normal) (finite : x.Finite)
    (rounds : Rounds (x.units places / 10 ^ places) y) : y.Finite :=
  rounds.finite normal_greatest (by decide)
    (units_le (normal.le_greatest finite) (by decide) places)

/-- If the nearest multiple of a last place is read again, it is still the nearest one: what is read
is at least as near to it as what it was counted for. -/
theorem Rounds.units_eq {x y : Magnitude} {places : ℕ} (normal : x.Normal)
    (rounds : Rounds (x.units places / 10 ^ places) y) : y.units places = x.units places := by
  have near : |y.toRat * 10 ^ places - x.units places| ≤
      |x.toRat * 10 ^ places - x.units places| := by
    rw [abs_sub_units, abs_sub_units]
    exact mul_le_mul_of_nonneg_right (rounds.nearest x normal) (by positivity)
  exact (y.isNearest_units places).unique ((x.isNearest_units places).of_near near)

end InstrumentBench.Decimal.Magnitude
