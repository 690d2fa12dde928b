import InstrumentBench.Decimal.Shortest

/-!
# JSON numbers

An integer of 64 bits is kept exactly, every other number as a binary64.  A
number with a fraction or a power of ten is read by scaling: its significand,
cut to 64 bits, is rounded to a binary64 and then multiplied or divided by a
power of ten, each step rounding once.  A number beyond the finite range is
refused.
-/

namespace InstrumentBench.Json

open Decimal

/-- A number as written: the integer digits, the digits after the point if
there is one, and the power of ten if there is one. -/
structure Lexeme where
  negative : Bool
  whole : List Char
  fraction : Option (List Char)
  power : Option Int
  deriving DecidableEq, Repr

namespace Lexeme

/-- The text without the digits of a fraction, and those digits. -/
def readFraction? : List Char → Option (Option (List Char) × List Char)
  | '.' :: rest =>
    let ds := rest.takeWhile isDigit
    if ds = [] then none else some (some ds, rest.dropWhile isDigit)
  | text => some (none, text)

/-- A power of ten that is the whole of a text, or none for the empty text. -/
def readPower? : List Char → Option (Option Int)
  | [] => some none
  | c :: rest =>
    if c = 'e' ∨ c = 'E' then
      let (negative, ds) :=
        match rest with
        | '+' :: ds => (false, ds)
        | '-' :: ds => (true, ds)
        | ds => (false, ds)
      if ds ≠ [] ∧ ds.all isDigit then
        some (some (if negative then -(value ds : Int) else value ds))
      else
        none
    else
      none

/-- The number that a whole text spells.  The integer digits have no leading
zeros, and a point and a power have digits after them. -/
def read? (text : List Char) : Option Lexeme :=
  let (negative, body) :=
    match text with
    | '-' :: rest => (true, rest)
    | text => (false, text)
  let whole := body.takeWhile isDigit
  if whole = [] ∨ (whole.head? = some '0' ∧ whole ≠ ['0']) then none
  else do
    let (fraction, rest) ← readFraction? (body.dropWhile isDigit)
    let power ← readPower? rest
    return ⟨negative, whole, fraction, power⟩

end Lexeme

/-- A JSON number. -/
inductive Number where
  /-- An integer from `-2 ^ 63` to `2 ^ 64 - 1`. -/
  | integer (value : Int)
  | real (value : Binary64)
  deriving DecidableEq, Repr

namespace Number

/-- A significand continued with digits as long as it stays below `2 ^ 64`, and
the digits that no longer fit. -/
def fit (significand : Nat) : List Char → Nat × List Char
  | [] => (significand, [])
  | c :: rest =>
    let next := 10 * significand + digitValue c
    if next < Nat.pow 2 64 then fit next rest else (significand, c :: rest)

/-- A magnitude divided by `10 ^ power`, in steps of at most `10 ^ 308`; each
step rounds once. -/
def divided (x : Magnitude) : (steps power : Nat) → Option Magnitude
  | 0, _ => some x
  | steps + 1, power =>
    if power ≤ 308 then do
      x.div? (← Magnitude.ofDecimal? 1 power)
    else if x.mantissa = 0 then some x
    else do
      let smaller ← x.div? (← Magnitude.ofDecimal? 1 308)
      divided smaller steps (power - 308)

/-- The significand times a power of ten, rounded at each step; none beyond the
finite range. -/
def scaled? (significand : Nat) (power : Int) : Option Magnitude := do
  let x ← Magnitude.ofDecimal? significand 0
  if 0 ≤ power then
    if x.mantissa = 0 then some x
    else if power ≤ 308 then x.mul? (← Magnitude.ofDecimal? 1 power)
    else none
  else
    divided x (power.natAbs / 308 + 1) power.natAbs

/-- The number that a lexeme denotes, none beyond the finite range. -/
def ofLexeme? (lexeme : Lexeme) : Option Number :=
  let (whole, overflow) := fit 0 lexeme.whole
  let magnitude := value lexeme.whole
  if lexeme.fraction = none ∧ lexeme.power = none ∧ overflow = [] ∧ !lexeme.negative then
    some (.integer magnitude)
  else if lexeme.fraction = none ∧ lexeme.power = none ∧ lexeme.negative ∧ magnitude ≠ 0 ∧
      magnitude ≤ Nat.pow 2 63 then
    some (.integer (-(magnitude : Int)))
  else
    let fraction := lexeme.fraction.getD []
    let (significand, dropped) := fit whole fraction
    let power : Int :=
      overflow.length - (fraction.length - dropped.length : Nat) + lexeme.power.getD 0
    (scaled? significand power).map fun magnitude => .real ⟨lexeme.negative, magnitude⟩

/-- The digits of a decimal around the point: positional from `10 ^ -5` up to
`10 ^ 16`, else with one digit before the point and a signed power of ten. -/
def scientificText (x : Scientific) : List Char :=
  let ds := digits x.significand
  let leading : Int := ds.length - 1 + x.power
  if leading < -5 ∨ 16 ≤ leading then
    let fraction := if ds.length = 1 then [] else '.' :: ds.tail
    ds.take 1 ++ fraction ++ ['e', if leading < 0 then '-' else '+'] ++ digits leading.natAbs
  else if 0 ≤ x.power then
    ds ++ List.replicate x.power.toNat '0' ++ ['.', '0']
  else if 0 ≤ leading then
    ds.take (leading.toNat + 1) ++ '.' :: ds.drop (leading.toNat + 1)
  else
    ['0', '.'] ++ List.replicate (-leading - 1).toNat '0' ++ ds

/-- A number as text: an integer by its digits, a real by the shortest decimal
that reads back. -/
def text : Number → List Char
  | .integer value => (if value < 0 then ['-'] else []) ++ digits value.natAbs
  | .real x => (if x.negative then ['-'] else []) ++ scientificText x.magnitude.shortest

end Number

end InstrumentBench.Json
