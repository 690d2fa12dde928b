import InstrumentBench.Decimal.Rounding

/-!
# Binary64 numbers

The numbers an operator types go through the binary format with 53 significant
bits.  A finite number is kept exactly, as a natural number times a power of
two, and every operation first takes its exact result and then rounds once to
the nearest number of the format, a tie going to the even mantissa.  Overflow
has no finite result.
-/

namespace InstrumentBench.Decimal

/-- The magnitude `mantissa * 2 ^ exponent` of a finite binary64 number.  The
mantissa is below `2 ^ 53`, and at least `2 ^ 52` unless the exponent is the
least one, `-1074`. -/
structure Magnitude where
  mantissa : Nat
  exponent : Int
  deriving DecidableEq, Repr

/-- A finite binary64 number; zero has a sign too. -/
structure Binary64 where
  negative : Bool
  magnitude : Magnitude
  deriving DecidableEq, Repr

namespace Magnitude

/-- The magnitude of zero. -/
def zero : Magnitude := ⟨0, -1074⟩

/-- A quotient over a power of two: `numerator / (denominator * 2 ^ exponent)`
as a numerator and a denominator. -/
def onGrid (numerator denominator : Nat) (exponent : Int) : Nat × Nat :=
  (numerator * Nat.pow 2 (-exponent).toNat, denominator * Nat.pow 2 exponent.toNat)

/-- The exponent of the grid on which a positive quotient is rounded: the
quotient over that power of two has 53 bits, or fewer at the least exponent. -/
def gridExponent (numerator denominator : Nat) : Int :=
  let near : Int := numerator.log2 - denominator.log2 - 53
  let (above, below) := onGrid numerator denominator near
  max (if above / below < Nat.pow 2 53 then near else near + 1) (-1074)

/-- The magnitude nearest to `numerator / denominator`, none on overflow. -/
def ofRatio? (numerator denominator : Nat) : Option Magnitude :=
  if numerator = 0 then
    some zero
  else
    let exponent := gridExponent numerator denominator
    let (above, below) := onGrid numerator denominator exponent
    let mantissa := roundHalfEven above below
    let (mantissa, exponent) :=
      if mantissa = Nat.pow 2 53 then (Nat.pow 2 52, exponent + 1) else (mantissa, exponent)
    if exponent ≤ 971 then some ⟨mantissa, exponent⟩ else none

/-- The magnitude nearest to `significand * 10 ^ power`, none on overflow.  The
first two cases only spare large powers: from `10 ^ 400` on everything
overflows, and below `10 ^ -400` everything rounds to zero. -/
def ofDecimal? (significand : Nat) (power : Int) : Option Magnitude :=
  if significand = 0 then some zero
  else if 400 < power then none
  else if power + significand.log2 + 1 < -400 then some zero
  else ofRatio? (significand * Nat.pow 10 power.toNat) (Nat.pow 10 (-power).toNat)

/-- The numerator and the denominator of a magnitude. -/
def ratio (x : Magnitude) : Nat × Nat :=
  (x.mantissa * Nat.pow 2 x.exponent.toNat, Nat.pow 2 (-x.exponent).toNat)

/-- The product rounded once, none on overflow. -/
def mul? (x y : Magnitude) : Option Magnitude :=
  ofRatio? (x.ratio.1 * y.ratio.1) (x.ratio.2 * y.ratio.2)

/-- The quotient by a nonzero magnitude rounded once, none on overflow. -/
def div? (x y : Magnitude) : Option Magnitude :=
  ofRatio? (x.ratio.1 * y.ratio.2) (x.ratio.2 * y.ratio.1)

/-- The multiple of `10 ^ -places` nearest to the magnitude, counted in those
units. -/
def units (x : Magnitude) (places : Nat) : Nat :=
  roundHalfEven (x.ratio.1 * Nat.pow 10 places) x.ratio.2

end Magnitude

end InstrumentBench.Decimal
