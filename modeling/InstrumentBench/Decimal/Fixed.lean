import InstrumentBench.Decimal.Numeral

/-!
# Fixed-point texts

A number with a fixed count of decimal places: the nearest multiple of the
last place, an exact tie going to the even one.  The sign of the number is
kept, also where it rounds to zero.
-/

namespace InstrumentBench.Decimal

/-- A count of units of the last place, written with `places` places. -/
def fixedDigits (places units : Nat) : List Char :=
  let whole := digits (units / Nat.pow 10 places)
  if places = 0 then whole else whole ++ '.' :: lowDigits places units

/-- A number with exactly `places` decimal places. -/
def Binary64.fixed (places : Nat) (x : Binary64) : List Char :=
  (if x.negative then ['-'] else []) ++ fixedDigits places (x.magnitude.units places)

/-- A typed number with exactly `places` decimal places; none if the text
spells no finite number. -/
def fixed? (places : Nat) (text : String) : Option String :=
  (Binary64.read? text.toList).map fun x => String.ofList (x.fixed places)

end InstrumentBench.Decimal
