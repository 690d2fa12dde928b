import InstrumentBench.Decimal.Fixed
import InstrumentBench.Proofs.Decimal.Binary64
import InstrumentBench.Proofs.Decimal.Numeral

/-!
# Fixed-point texts

A text is written with a fixed count of places exactly if it spells a finite number, and what is
written is the one text that the number has with those places: its own sign, and the digits of the
nearest multiple of the last place (`fixed?_eq_some`).
-/

namespace InstrumentBench.Decimal

/-- The multiple of a last place that is nearest to a number, counted in units of that place; the
even one when two are equally near. -/
structure NearestMultiple (places : ℕ) (number : ℚ) (units : ℤ) : Prop where
  nearest : ∀ other : ℤ, |number - units / 10 ^ places| ≤ |number - other / 10 ^ places|
  even : ∀ other : ℤ, other ≠ units →
    |number - other / 10 ^ places| = |number - units / 10 ^ places| → Even units

namespace Binary64

/-- The number that a finite binary64 number stands for. -/
def toRat (x : Binary64) : ℚ :=
  if x.negative then -x.magnitude.toRat else x.magnitude.toRat

/-- The finite number nearest to the decimal that a text spells, with the sign of the text. -/
def Spelled (text : List Char) (x : Binary64) : Prop :=
  ∃ significand power, Numeral.Spells text (.decimal x.negative significand power) ∧
    Magnitude.Rounds (significand * 10 ^ power) x.magnitude ∧ x.magnitude.Finite

/-- The text of a number with a fixed count of places: a minus sign exactly if the number has one,
digits without superfluous zeros in front, and a point and that many digits if there are places.
It denotes the nearest multiple of the last place. -/
inductive WrittenFixed (places : ℕ) (x : Binary64) : List Char → Prop where
  | mk {whole fraction : List Char} (number : Padded 1 (value whole) whole)
      (digit : ∀ c ∈ fraction, isDigit c = true) (width : fraction.length = places)
      (nearest : NearestMultiple places x.toRat
        (if x.negative then -(value (whole ++ fraction) : ℤ) else value (whole ++ fraction))) :
      WrittenFixed places x ((if x.negative then ['-'] else []) ++
        (whole ++ if places = 0 then [] else '.' :: fraction))

/-! ## Reading -/

/-- What a text is read as is the number it spells. -/
theorem read?_eq_some {text : List Char} {x : Binary64} :
    read? text = some x ↔ Spelled text x := by
  unfold read? Spelled
  simp only [Option.bind_eq_some_iff, Numeral.read?_eq_some, ← Magnitude.ofDecimal?_eq_some]
  constructor
  · rintro ⟨numeral, spells, read⟩
    cases numeral with
    | decimal negative significand power =>
      obtain ⟨magnitude, rounded, rfl⟩ := Option.map_eq_some_iff.1 read
      exact ⟨significand, power, spells, rounded⟩
    | infinity negative => cases read
    | notANumber => cases read
  · rintro ⟨significand, power, spells, rounded⟩
    exact ⟨_, spells, Option.map_eq_some_iff.2 ⟨_, rounded, rfl⟩⟩

/-! ## Writing -/

/-- The distance to a multiple of a last place, in units of that place and without the sign. -/
theorem distance_eq (x : Binary64) (places : ℕ) (units : ℤ) :
    |x.toRat - (if x.negative then -units else units : ℤ) / 10 ^ places| =
      |x.magnitude.toRat * 10 ^ places - units| / 10 ^ places := by
  have positive : (0 : ℚ) < 10 ^ places := by positivity
  rw [eq_div_iff positive.ne', ← abs_sub_div_mul positive, toRat]
  cases x.negative with
  | false => rfl
  | true =>
    rw [if_pos rfl, if_pos rfl, Int.cast_neg, neg_div, neg_sub_neg, abs_sub_comm]

theorem exists_signed (negative : Bool) (units : ℤ) :
    ∃ other : ℤ, units = if negative then -other else other := by
  cases negative with
  | false => exact ⟨units, rfl⟩
  | true => exact ⟨-units, (neg_neg units).symm⟩

theorem signed_inj {negative : Bool} {units other : ℤ} :
    (if negative then -units else units) = (if negative then -other else other) ↔
      units = other := by
  cases negative with
  | false => rfl
  | true => exact neg_inj

theorem even_signed {negative : Bool} {units : ℤ} :
    Even (if negative then -units else units) ↔ Even units := by
  cases negative with
  | false => rfl
  | true => exact even_neg

/-- The nearest multiple of a last place has the units that are counted. -/
theorem nearestMultiple_iff {x : Binary64} {places count : ℕ} :
    NearestMultiple places x.toRat (if x.negative then -(count : ℤ) else count) ↔
      count = x.magnitude.units places := by
  have units := x.magnitude.isNearest_units places
  constructor
  · intro multiple
    by_contra different
    have near := multiple.nearest (if x.negative then -x.magnitude.units places else
      x.magnitude.units places)
    have even := multiple.even (if x.negative then -x.magnitude.units places else
      x.magnitude.units places)
    rw [distance_eq, distance_eq] at near even
    rw [div_le_div_iff_of_pos_right (by positivity), Int.cast_natCast, Int.cast_natCast] at near
    rw [Ne, signed_inj, div_left_inj' (by positivity), even_signed, Int.even_coe_nat,
      Int.cast_natCast, Int.cast_natCast, Nat.cast_inj] at even
    exact different (units.eq_of_le near fun tie => even (Ne.symm different) tie.symm)
  · rintro rfl
    refine ⟨fun other => ?_, fun other different tie => ?_⟩
    all_goals obtain ⟨other, rfl⟩ := exists_signed x.negative other
    · rw [distance_eq, distance_eq]
      exact div_le_div_of_nonneg_right (units.le_abs other) (by positivity)
    · rw [Ne, signed_inj] at different
      rw [distance_eq, distance_eq, div_left_inj' (by positivity)] at tie
      rw [even_signed, Int.even_coe_nat]
      exact units.even (units.eq_half different tie)

/-- The digits of the units stand before and after the point, if there is one. -/
theorem fixedDigits_eq (places units : ℕ) :
    fixedDigits places units = digits (units / 10 ^ places) ++
      if places = 0 then [] else '.' :: lowDigits places units := by
  unfold fixedDigits
  dsimp only [Nat.pow_eq]
  split
  next => rw [List.append_nil]
  next => rfl

/-- A number has one text with a fixed count of places. -/
theorem writtenFixed_iff {places : ℕ} {x : Binary64} {text : List Char} :
    WrittenFixed places x text ↔ text = x.fixed places := by
  rw [fixed, fixedDigits_eq]
  constructor
  · rintro ⟨number, digit, rfl, nearest⟩
    rw [nearestMultiple_iff] at nearest
    rw [← nearest, value_append_div _ digit, lowDigits_value_append _ digit, ← number.eq_digits]
  · rintro rfl
    refine .mk ?_ isDigit_of_mem_lowDigits (lowDigits_length _ _) ?_
    · rw [value_digits]
      exact padded_digits _
    · rw [nearestMultiple_iff, value_append, value_digits, value_lowDigits, lowDigits_length,
        Nat.div_add_mod']

/-! ## Reading what is written -/

/-- The text of a number spells the multiple of the last place that is nearest to it. -/
theorem WrittenFixed.spells {places : ℕ} {x : Binary64} {text : List Char}
    (written : WrittenFixed places x text) :
    Numeral.Spells text (.decimal x.negative (x.magnitude.units places) (-places)) := by
  obtain ⟨number, digit, rfl, nearest⟩ := written
  next whole fraction =>
  have nonempty := List.ne_nil_of_length_pos number.width_le
  have signed : Numeral.SpellsSign (if x.negative then ['-'] else []) x.negative := by
    cases x.negative with
    | false => exact .absent
    | true => exact .minus
  have digits : Numeral.SpellsDigits (whole ++ if fraction.length = 0 then [] else '.' :: fraction)
      whole fraction := by
    by_cases empty : fraction = []
    · subst empty
      exact (List.append_nil whole).symm ▸ .whole number.digit nonempty
    · rw [if_neg (List.length_eq_zero_iff.not.2 empty)]
      exact .pointed (List.forall_mem_append.2 ⟨number.digit, digit⟩)
        (List.append_ne_nil_of_left_ne_nil nonempty _)
  rw [← nearestMultiple_iff.1 nearest]
  exact (Numeral.SpellsPlain.mk signed digits).spells

/-- What is written for a number with a fixed count of places spells a number with the same text. -/
theorem Spelled.again {places : ℕ} {x : Binary64} {text written : List Char}
    (spelled : Spelled text x) (fixed : WrittenFixed places x written) :
    ∃ y, Spelled written y ∧ WrittenFixed places y written := by
  obtain ⟨_, _, -, rounds, finite⟩ := spelled
  obtain ⟨magnitude, again⟩ := Magnitude.exists_rounds_units (x.magnitude.units places) places
  refine ⟨⟨x.negative, magnitude⟩, ⟨_, _, fixed.spells, ?_, ?_⟩, ?_⟩
  · rwa [zpow_neg, zpow_natCast, ← div_eq_mul_inv]
  · exact again.finite_units rounds.normal finite
  · rw [writtenFixed_iff] at fixed ⊢
    rw [fixed, Binary64.fixed, Binary64.fixed, again.units_eq rounds.normal]

end Binary64

/-- A text is written with a fixed count of places if it spells a finite number, as the text of
that number. -/
theorem fixed?_eq_some {places : ℕ} {text written : String} :
    fixed? places text = some written ↔
      ∃ x, Binary64.Spelled text.toList x ∧ x.WrittenFixed places written.toList := by
  simp only [fixed?, Option.map_eq_some_iff, Binary64.read?_eq_some, Binary64.writtenFixed_iff]
  refine exists_congr fun x => and_congr_right fun _ => ?_
  rw [← String.toList_inj, String.toList_ofList, eq_comm]

/-- What is written is written again as it is. -/
theorem fixed?_of_fixed? {places : ℕ} {text written : String}
    (first : fixed? places text = some written) : fixed? places written = some written := by
  obtain ⟨x, spelled, fixed⟩ := fixed?_eq_some.1 first
  exact fixed?_eq_some.2 (spelled.again fixed)

/-- A text is written with a fixed count of places exactly if it spells a finite number, and what
is written is the one text that this number has. -/
theorem fixed?_nearest (places : ℕ) (text : String) :
    ((fixed? places text).isSome ↔ ∃ x, Binary64.Spelled text.toList x) ∧
      ∀ written, fixed? places text = some written ↔
        ∃ x, Binary64.Spelled text.toList x ∧ x.WrittenFixed places written.toList := by
  refine ⟨?_, fun written => fixed?_eq_some⟩
  simp only [fixed?, Option.isSome_map, Option.isSome_iff_exists, Binary64.read?_eq_some]

end InstrumentBench.Decimal
