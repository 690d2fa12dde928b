import InstrumentBench.Proofs.Decimal.Fixed

/-!
# Decimals of at most fifteen digits

Fifteen decimal digits fit into 53 bits with two to spare.  So a decimal of at most fifteen digits,
those up to the last place counted, is read as a number that is nearer to it than to any other
multiple of that place, and its digits are written as they were typed (`fixed?_of_spellsPlain`).
-/

namespace InstrumentBench.Decimal

namespace Magnitude

variable {places count : ℕ}

/-- The bits after the point that tell the halves of a last place apart, as few as will do. -/
theorem exists_bits (few : places ≤ 15) :
    ∃ bits < 53, 2 * 10 ^ places < 2 ^ bits ∧ 2 ^ bits ≤ 4 * 10 ^ places := by
  have lower := @Nat.lt_log2_self (10 ^ places)
  have upper := Nat.log2_self_le (pow_ne_zero places (show 10 ≠ 0 by decide))
  rw [pow_succ] at lower
  have high : 2 ^ ((10 ^ places).log2 + 2) ≤ 4 * 10 ^ places := by
    rw [pow_add]
    omega
  refine ⟨(10 ^ places).log2 + 2, ?_, ?_, high⟩
  · have bound : 2 ^ ((10 ^ places).log2 + 2) < 2 ^ 53 := calc
      2 ^ ((10 ^ places).log2 + 2) ≤ 4 * 10 ^ places := high
      _ ≤ 4 * 10 ^ 15 := by gcongr; decide
      _ < 2 ^ 53 := by decide
    exact (Nat.pow_lt_pow_iff_right (by decide)).1 bound
  · rw [pow_add]
    omega

/-- What a quotient loses beyond some bits after its point is less than the last of them. -/
theorem exists_truncated {numerator denominator bits : ℕ} (positive : 0 < denominator)
    (short : numerator * 2 ^ bits < denominator * 2 ^ 53) (few : bits ≤ 1074) :
    ∃ y : Magnitude, y.Normal ∧ |numerator / denominator - y.toRat| < 1 / 2 ^ bits := by
  have division := Nat.div_add_mod' (numerator * 2 ^ bits) denominator
  have remainder_lt := Nat.mod_lt (numerator * 2 ^ bits) positive
  have mantissa_lt := Nat.div_lt_of_lt_mul short
  generalize numerator * 2 ^ bits / denominator = mantissa at division mantissa_lt
  generalize numerator * 2 ^ bits % denominator = remainder at division remainder_lt
  obtain ⟨y, normal, same⟩ := exists_normal mantissa_lt (show -1074 ≤ -(bits : ℤ) by omega)
  have denominator_pos : (0 : ℚ) < denominator := by exact_mod_cast positive
  have exact : (numerator * 2 ^ bits : ℚ) = mantissa * denominator + remainder := by
    exact_mod_cast division.symm
  have lost : (numerator / denominator - y.toRat : ℚ) = remainder / denominator / 2 ^ bits := by
    rw [same, zpow_neg, zpow_natCast]
    field_simp
    linarith
  refine ⟨y, normal, ?_⟩
  rw [lost, abs_of_nonneg (by positivity)]
  gcongr
  rw [div_lt_one denominator_pos]
  exact_mod_cast remainder_lt

/-- A number of at most fifteen digits is within half a unit of its last place of a magnitude: its
digits leave room for those bits. -/
theorem exists_near (few : places ≤ 15) (short : count < 10 ^ 15) :
    ∃ y : Magnitude, y.Normal ∧ |count / 10 ^ places - y.toRat| * 10 ^ places < 1 / 2 := by
  obtain ⟨bits, bits_lt, low, high⟩ := exists_bits few
  have room : count * 2 ^ bits < 10 ^ places * 2 ^ 53 := calc
    count * 2 ^ bits ≤ count * (4 * 10 ^ places) := by gcongr
    _ = 10 ^ places * (4 * count) := by ring
    _ < 10 ^ places * 2 ^ 53 := by gcongr; omega
  obtain ⟨y, normal, near⟩ := exists_truncated (pow_pos (by decide) places) room (by omega)
  rw [Nat.cast_pow, Nat.cast_ofNat] at near
  have scale : (2 * 10 ^ places : ℚ) < 2 ^ bits := by exact_mod_cast low
  refine ⟨y, normal, ?_⟩
  calc |count / 10 ^ places - y.toRat| * 10 ^ places < 1 / 2 ^ bits * 10 ^ places := by gcongr
    _ < 1 / 2 := by
      rw [div_mul_eq_mul_div, div_lt_iff₀ (by positivity)]
      linarith

/-- What has at most fifteen digits is read as a number whose nearest multiple of the last place it
is. -/
theorem Rounds.units_of_short {x : Magnitude} (few : places ≤ 15) (short : count < 10 ^ 15)
    (rounds : Rounds (count / 10 ^ places) x) : x.units places = count := by
  obtain ⟨y, normal, near⟩ := exists_near few short
  have nearer : |x.toRat * 10 ^ places - count| < 1 / 2 := by
    rw [abs_sub_units]
    refine lt_of_le_of_lt ?_ near
    exact mul_le_mul_of_nonneg_right (rounds.nearest y normal) (by positivity)
  exact (x.isNearest_units places).unique (.of_lt nearer)

theorem Rounds.finite_of_short {x : Magnitude} (short : count < 10 ^ 15)
    (rounds : Rounds (count / 10 ^ places) x) : x.Finite := by
  refine rounds.finite (y := ⟨2 ^ 52, 1⟩) ⟨by decide, by decide, .inl le_rfl⟩ (by decide) ?_
  have one_le : (1 : ℚ) ≤ 10 ^ places := one_le_pow₀ (by norm_num)
  have small : (count : ℚ) ≤ (2 ^ 53 : ℕ) := by
    exact_mod_cast (short.trans (by decide)).le
  calc (count / 10 ^ places : ℚ) ≤ count := div_le_self (by positivity) one_le
    _ ≤ (2 ^ 53 : ℕ) := small
    _ = toRat ⟨2 ^ 52, 1⟩ := by
      rw [toRat, zpow_one]
      norm_num

end Magnitude

/-! ## Leading and trailing zeros -/

/-- The digits of an integer part without the zeros that lead it, but for the zero of zero. -/
def withoutZeros (whole : List Char) : List Char :=
  if whole.dropWhile (· == '0') = [] then ['0'] else whole.dropWhile (· == '0')

/-- The digits of a fraction, with zeros behind them up to a count of places. -/
def withZeros (places : ℕ) (fraction : List Char) : List Char :=
  fraction ++ List.replicate (places - fraction.length) '0'

theorem value_replicate (width : ℕ) : value (List.replicate width '0') = 0 := by
  induction width with
  | zero => rfl
  | succ width ih => rw [List.replicate_succ', value_concat, ih]; rfl

/-- Zeros in front do not count. -/
theorem value_dropWhile (text : List Char) : value (text.dropWhile (· == '0')) = value text := by
  have zeros : text.takeWhile (· == '0') =
      List.replicate (text.takeWhile (· == '0')).length '0' := by
    refine List.eq_replicate_of_mem fun c member => ?_
    exact eq_of_beq (@List.mem_takeWhile_imp _ (· == '0') text c member)
  conv_rhs => rw [← List.takeWhile_append_dropWhile (p := (· == '0')) (l := text), value_append,
    zeros, value_replicate, Nat.zero_mul, Nat.zero_add]

theorem isDigit_dropWhile {text : List Char} (digit : ∀ c ∈ text, isDigit c = true) :
    ∀ c ∈ text.dropWhile (· == '0'), isDigit c = true :=
  fun c member => digit c ((List.dropWhile_suffix _).mem member)

theorem value_withoutZeros (whole : List Char) : value (withoutZeros whole) = value whole := by
  rw [withoutZeros, ← value_dropWhile whole]
  split
  next zero => rw [zero]; rfl
  next => rfl

theorem padded_withoutZeros {whole : List Char} (digit : ∀ c ∈ whole, isDigit c = true) :
    Padded 1 (value (withoutZeros whole)) (withoutZeros whole) := by
  unfold withoutZeros
  split
  next => exact padded_digits 0
  next nonempty =>
    refine ⟨isDigit_dropWhile digit, rfl, List.length_pos_iff.2 nonempty, fun _ zero => ?_⟩
    have notZero := List.head?_dropWhile_not (· == '0') whole
    rw [zero] at notZero
    cases notZero

theorem isDigit_withZeros {places : ℕ} {fraction : List Char}
    (digit : ∀ c ∈ fraction, isDigit c = true) :
    ∀ c ∈ withZeros places fraction, isDigit c = true := by
  refine List.forall_mem_append.2 ⟨digit, fun c member => ?_⟩
  rw [List.eq_of_mem_replicate member]
  rfl

theorem length_withZeros {places : ℕ} {fraction : List Char} (fits : fraction.length ≤ places) :
    (withZeros places fraction).length = places := by
  rw [withZeros, List.length_append, List.length_replicate, Nat.add_sub_cancel' fits]

theorem value_append_withZeros (places : ℕ) (whole fraction : List Char) :
    value (whole ++ withZeros places fraction) =
      value (whole ++ fraction) * 10 ^ (places - fraction.length) := by
  rw [withZeros, ← List.append_assoc, value_append, value_replicate, List.length_replicate,
    Nat.add_zero]

/-! ## Plain decimals -/

/-- A decimal with as many places as are wanted and no zeros in front. -/
def aligned (places : ℕ) (negative : Bool) (whole fraction : List Char) : List Char :=
  (if negative then ['-'] else []) ++
    (withoutZeros whole ++ if places = 0 then [] else '.' :: withZeros places fraction)

/-- Zeros behind a fraction do not change what a decimal denotes. -/
theorem decimal_eq_withZeros {places : ℕ} {fraction : List Char} (fits : fraction.length ≤ places)
    (whole : List Char) :
    (value (whole ++ fraction) * 10 ^ (-fraction.length : ℤ) : ℚ) =
      value (whole ++ withZeros places fraction) / 10 ^ places := by
  have scale : (10 : ℚ) ^ places = 10 ^ (places - fraction.length) * 10 ^ fraction.length := by
    rw [← pow_add, Nat.sub_add_cancel fits]
  rw [value_append_withZeros, Nat.cast_mul, Nat.cast_pow, Nat.cast_ofNat, scale, zpow_neg,
    zpow_natCast]
  field_simp

/-- With few digits in front of the point, there are at most fifteen. -/
theorem value_append_lt {places : ℕ} {whole digits : List Char}
    (digit : ∀ c ∈ whole ++ digits, isDigit c = true) (width : digits.length = places)
    (few : places ≤ 15) (short : (whole.dropWhile (· == '0')).length ≤ 15 - places) :
    value (whole ++ digits) < 10 ^ 15 := by
  rw [List.forall_mem_append] at digit
  have whole_lt : value whole < 10 ^ (15 - places) := by
    rw [← value_dropWhile]
    exact (value_lt (isDigit_dropWhile digit.1)).trans_le (Nat.pow_le_pow_right (by decide) short)
  calc value (whole ++ digits) = value whole * 10 ^ places + value digits := by
        rw [value_append, width]
    _ < value whole * 10 ^ places + 10 ^ places := by
        rw [← width]
        exact Nat.add_lt_add_left (value_lt digit.2) _
    _ = (value whole + 1) * 10 ^ places := by ring
    _ ≤ 10 ^ (15 - places) * 10 ^ places := by
        gcongr
        exact whole_lt
    _ = 10 ^ 15 := by rw [← pow_add, Nat.sub_add_cancel few]

/-- The digits of a plain decimal are written as they were typed. -/
theorem fixed?_of_spellsPlain {places : ℕ} {text : String} {negative : Bool}
    {whole fraction : List Char} (plain : Numeral.SpellsPlain text.toList negative whole fraction)
    (few : places ≤ 15) (fits : fraction.length ≤ places)
    (short : (whole.dropWhile (· == '0')).length ≤ 15 - places) :
    fixed? places text = some (String.ofList (aligned places negative whole fraction)) := by
  have digit := List.forall_mem_append.1 plain.digit
  have padded := @isDigit_withZeros places fraction digit.2
  have width := length_withZeros fits
  have count_lt := value_append_lt (List.forall_mem_append.2 ⟨digit.1, padded⟩) width few short
  obtain ⟨x, rounds⟩ :=
    Magnitude.exists_rounds_units (value (whole ++ withZeros places fraction)) places
  have spelled : Binary64.Spelled text.toList ⟨negative, x⟩ := by
    refine ⟨_, _, plain.spells, ?_, rounds.finite_of_short count_lt⟩
    rwa [decimal_eq_withZeros fits]
  have nearest : value (withoutZeros whole ++ withZeros places fraction) = x.units places := by
    rw [rounds.units_of_short few count_lt, value_append, value_append, value_withoutZeros]
  rw [fixed?_eq_some, String.toList_ofList]
  exact ⟨_, spelled, .mk (padded_withoutZeros digit.1) padded width
    (Binary64.nearestMultiple_iff.2 nearest)⟩

end InstrumentBench.Decimal
