import InstrumentBench.Decimal.Binary64
import InstrumentBench.Decimal.Digits

/-!
# Shortest decimals

The decimal with the fewest digits that reads back as a given magnitude.  The
grids of multiples of powers of ten are tried from coarse to fine; on each the
two neighbours of the magnitude are candidates, the nearer one first.
-/

namespace InstrumentBench.Decimal

/-- A decimal `significand * 10 ^ power`. -/
structure Scientific where
  significand : Nat
  power : Int
  deriving DecidableEq, Repr

namespace Magnitude

/-- Whether the decimal reads as this magnitude. -/
def readBy (x : Magnitude) (significand : Nat) (power : Int) : Bool :=
  ofDecimal? significand power = some x

/-- The neighbours of a magnitude among the multiples of `10 ^ power`, the
nearer one first. -/
def neighbours (x : Magnitude) (power : Int) : List Nat :=
  let above := x.ratio.1 * Nat.pow 10 (-power).toNat
  let below := x.ratio.2 * Nat.pow 10 power.toNat
  let floor := above / below
  if roundHalfEven above below = floor then [floor, floor + 1] else [floor + 1, floor]

/-- The first decimal that reads back, on grids from `power` downward; the
nearest decimal on the last grid if none does. -/
def firstReadBack (x : Magnitude) : (steps : Nat) → (power : Int) → Scientific
  | 0, power => ⟨(x.neighbours power).headD 0, power⟩
  | steps + 1, power =>
    match (x.neighbours power).find? (x.readBy · power) with
    | some significand => ⟨significand, power⟩
    | none => firstReadBack x steps (power - 1)

/-- A power of ten above a magnitude, by at most a few places: three decimal
places hold a little less than ten binary ones. -/
def powerAbove (x : Magnitude) : Int :=
  (x.exponent + x.mantissa.log2 + 1) * 30103 / 100000 + 1

/-- The decimal with the fewest digits that reads back as the magnitude, and of
those the nearest; twenty-two grids reach seventeen digits. -/
def shortest (x : Magnitude) : Scientific :=
  if x.mantissa = 0 then ⟨0, 0⟩ else x.firstReadBack 22 x.powerAbove

end Magnitude

end InstrumentBench.Decimal
