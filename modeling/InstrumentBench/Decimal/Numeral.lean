import InstrumentBench.Decimal.Binary64
import InstrumentBench.Decimal.Digits

/-!
# Numerals

The number texts an operator may type: a sign, digits with a point among or
around them, and a power of ten.  The words for infinities and for "not a
number" are numerals too, but denote no finite number.  Only ASCII digits
count, and blanks are not skipped.
-/

namespace InstrumentBench.Decimal

/-- What a number text denotes. -/
inductive Numeral where
  /-- The exact decimal `significand * 10 ^ power`, negated if `negative`. -/
  | decimal (negative : Bool) (significand : Nat) (power : Int)
  | infinity (negative : Bool)
  | notANumber
  deriving DecidableEq, Repr

namespace Numeral

/-- A sign and what follows it; without a sign the number is not negative. -/
def readSign : List Char → Bool × List Char
  | '+' :: rest => (false, rest)
  | '-' :: rest => (true, rest)
  | text => (false, text)

/-- The power of ten after the digits: nothing, or `e`, a sign and digits. -/
def readPower? : List Char → Option Int
  | [] => some 0
  | c :: rest =>
    if c = 'e' ∨ c = 'E' then
      let (negative, ds) := readSign rest
      if ds ≠ [] ∧ ds.all isDigit then
        some (if negative then -(value ds : Int) else value ds)
      else
        none
    else
      none

/-- The digits of the integer part, those of the fraction, and what follows. -/
def readDigits (text : List Char) : List Char × List Char × List Char :=
  let whole := text.takeWhile isDigit
  match text.dropWhile isDigit with
  | '.' :: rest => (whole, rest.takeWhile isDigit, rest.dropWhile isDigit)
  | rest => (whole, [], rest)

/-- The numeral that a text spells, if it is one. -/
def read? (text : List Char) : Option Numeral :=
  let (negative, body) := readSign text
  let word := body.map Char.toLower
  if word = "inf".toList ∨ word = "infinity".toList then some (.infinity negative)
  else if word = "nan".toList then some .notANumber
  else
    let (whole, fraction, rest) := readDigits body
    if whole = [] ∧ fraction = [] then none
    else (readPower? rest).map fun power =>
      .decimal negative (value (whole ++ fraction)) (power - fraction.length)

/-- The binary64 number nearest to what a numeral denotes, if that is finite. -/
def toBinary64? : Numeral → Option Binary64
  | .decimal negative significand power =>
    (Magnitude.ofDecimal? significand power).map fun magnitude => ⟨negative, magnitude⟩
  | .infinity _ => none
  | .notANumber => none

end Numeral

/-- The finite binary64 number that a text spells. -/
def Binary64.read? (text : List Char) : Option Binary64 :=
  (Numeral.read? text).bind Numeral.toBinary64?

end InstrumentBench.Decimal
